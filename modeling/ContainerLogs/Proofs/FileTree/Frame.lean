import ContainerLogs.FileTree.Operation

/-! Changes of one node leave all others as they are. -/
namespace ContainerLogs.FileTree

/-- A node is the same in both trees. -/
def SameNode (number : Nat) (before after : FileTree) : Prop :=
  after.node? number = before.node? number

theorem SameNode.refl (number : Nat) (tree : FileTree) : SameNode number tree tree := rfl

/-- Two trees that differ in one node at most. -/
structure SameBut (number : Nat) (before after : FileTree) : Prop where
  base : after.base = before.base
  user : after.user = before.user
  node?_eq : ∀ other, other ≠ number → after.node? other = before.node? other

namespace SameBut

variable {number : Nat} {first second third : FileTree}

theorem refl (number : Nat) (tree : FileTree) : SameBut number tree tree :=
  ⟨rfl, rfl, fun _ _ => rfl⟩

theorem trans (h : SameBut number first second) (h' : SameBut number second third) :
    SameBut number first third :=
  ⟨h'.base.trans h.base, h'.user.trans h.user,
    fun other ne => (h'.node?_eq other ne).trans (h.node?_eq other ne)⟩

theorem update (tree : FileTree) (number : Nat) (change : Node → Node) :
    SameBut number tree (tree.update number change) :=
  ⟨rfl, rfl, fun _ ne => node?_update_ne tree change (Ne.symm ne)⟩

theorem length_eq (h : SameBut number first second) {here there : Node}
    (before : first.node? number = some here) (after : second.node? number = some there) :
    second.nodes.length = first.nodes.length := by
  have beyond (other : Nat) : second.nodes.length ≤ other ↔ first.nodes.length ≤ other := by
    rw [← List.getElem?_eq_none_iff, ← List.getElem?_eq_none_iff]
    change second.node? other = none ↔ first.node? other = none
    by_cases own : other = number
    · simp [own, before, after]
    · rw [h.node?_eq other own]
  exact Nat.le_antisymm ((beyond _).2 (Nat.le_refl _)) ((beyond _).1 (Nat.le_refl _))

end SameBut

theorem content_of_node? {tree : FileTree} {number : Nat} {node : Node}
    (h : tree.node? number = some node) : tree.content number = node.content := by
  simp [content, h]

theorem node?_setContent {tree : FileTree} {number owner mode : Nat} {old : Bytes} (new : Bytes)
    (h : tree.node? number = some ⟨.file old, owner, mode⟩) :
    (tree.setContent number new).node? number =
      some ⟨.file new, owner, modeAfterWriting mode⟩ := by
  simp [setContent, h]

theorem setContent_sameBut (tree : FileTree) (number : Nat) (new : Bytes) :
    SameBut number tree (tree.setContent number new) :=
  .update tree number _

theorem store_sameBut (tree : FileTree) (number offset : Nat) (bytes : Bytes) :
    SameBut number tree (tree.store number offset bytes) := by
  unfold store
  split
  · exact .refl number tree
  · exact setContent_sameBut tree number _

private theorem overwritten_end (content bytes : Bytes) :
    overwritten content content.length bytes = content ++ bytes := by
  simp [overwritten, resized]

/-- Storing at the end of a file adds to it. -/
theorem node?_store_end {tree : FileTree} {number owner mode : Nat} {content : Bytes}
    (bytes : Bytes) (steady : modeAfterWriting mode = mode)
    (h : tree.node? number = some ⟨.file content, owner, mode⟩) :
    (tree.store number content.length bytes).node? number =
      some ⟨.file (content ++ bytes), owner, mode⟩ := by
  unfold store
  by_cases nothing : bytes = []
  · simp [nothing, h]
  · have stored : tree.content number = content := content_of_node? h
    rw [if_neg (by simpa using nothing), stored, overwritten_end, node?_setContent _ h, steady]

theorem changeOpenMode_eq_ok {before after : FileTree} {number mode : Nat}
    (changed : before.changeOpenMode number mode = .ok after) :
    after = before.setMode number mode ∧
      ∃ node, before.node? number = some node ∧ node.owner = before.user := by
  unfold changeOpenMode at changed
  split at changed
  · rename_i own
    cases changed
    obtain ⟨node, found, same⟩ := (Option.any_eq_true _ _).1 own
    exact ⟨rfl, node, found, by simpa using same⟩
  · cases changed

theorem emptyOpen_eq_ok {before after : FileTree} {number : Nat}
    (emptied : before.emptyOpen number = .ok after) :
    after = before.setContent number [] ∧
      ∃ content owner mode, before.node? number = some ⟨.file content, owner, mode⟩ := by
  unfold emptyOpen at emptied
  split at emptied
  · rename_i regular
    cases emptied
    obtain ⟨⟨kind, owner, mode⟩, found, isFile⟩ := (Option.any_eq_true _ _).1 regular
    cases kind with
    | file content => exact ⟨rfl, content, owner, mode, found⟩
    | directory | symlink | fifo => cases isFile
  · cases emptied

theorem node?_setMode {tree : FileTree} {number : Nat} {node : Node} (mode : Nat)
    (h : tree.node? number = some node) :
    (tree.setMode number mode).node? number = some { node with mode } := by
  simp [setMode, h]

end ContainerLogs.FileTree
