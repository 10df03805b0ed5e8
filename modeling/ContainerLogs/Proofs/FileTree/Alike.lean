import ContainerLogs.Proofs.FileTree.Layout

/-!
Trees that differ in what some files hold, and in nothing else. Changes of single nodes leave them
so, as long as what a file holds decides about nothing but what it will hold.
-/
namespace ContainerLogs

/-- Nodes that differ in what a file holds at most. -/
def Node.Twins (left right : Node) : Prop :=
  right = left ∨ ∃ old new owner mode,
    left = ⟨.file old, owner, mode⟩ ∧ right = ⟨.file new, owner, mode⟩

theorem Node.Twins.isDirectory {left right : Node} (h : Twins left right) :
    right.isDirectory = left.isDirectory := by
  rcases h with rfl | ⟨_, _, _, _, rfl, rfl⟩ <;> rfl

theorem Node.Twins.isFile {left right : Node} (h : Twins left right) :
    right.isFile = left.isFile := by
  rcases h with rfl | ⟨_, _, _, _, rfl, rfl⟩ <;> rfl

theorem Node.Twins.owner {left right : Node} (h : Twins left right) : right.owner = left.owner := by
  rcases h with rfl | ⟨_, _, _, _, rfl, rfl⟩ <;> rfl

namespace FileTree

/-- Trees that differ at most in what the secret files hold. -/
structure AlikeBut (secret : Nat → Prop) (left right : FileTree) : Prop where
  base : right.base = left.base
  user : right.user = left.user
  length : right.nodes.length = left.nodes.length
  node : ∀ number, right.node? number = left.node? number ∨
    (secret number ∧ ∃ old new owner mode, left.node? number = some ⟨.file old, owner, mode⟩ ∧
      right.node? number = some ⟨.file new, owner, mode⟩)

namespace AlikeBut

variable {secret : Nat → Prop} {left right : FileTree}

variable (h : AlikeBut secret left right)
include h

theorem layout : SameLayout left right where
  base := h.base
  user := h.user
  node number := by
    rcases h.node number with same | ⟨-, old, new, owner, mode, before, after⟩
    · exact .inl same
    · exact .inr ⟨by rw [before]; rfl, by rw [after]; rfl⟩

theorem as (user : Nat) : AlikeBut secret { left with user } { right with user } :=
  ⟨h.base, rfl, h.length, h.node⟩

theorem permits_eq (number : Nat) (right' : Right) :
    right.permits number right' = left.permits number right' := by
  rcases h.node number with same | ⟨-, old, new, owner, mode, before, after⟩
  · simp [permits, same, h.user]
  · simp [permits, before, after, h.user, Node.permits]

private theorem directory_eq {number : Nat} {entries : List (String × Nat)}
    {parent owner mode : Nat} :
    right.node? number = some ⟨.directory entries parent, owner, mode⟩ ↔
      left.node? number = some ⟨.directory entries parent, owner, mode⟩ := by
  rcases h.node number with same | ⟨-, old, new, owner, mode, before, after⟩
  · rw [same]
  · simp [before, after]

theorem twins {number : Nat} {a : Node} (found : left.node? number = some a) :
    ∃ b, right.node? number = some b ∧ a.Twins b := by
  rcases h.node number with same | ⟨-, old, new, owner, mode, before, after⟩
  · exact ⟨a, same.trans found, .inl rfl⟩
  · rw [before] at found
    cases found
    exact ⟨_, after, .inr ⟨old, new, owner, mode, rfl, rfl⟩⟩

theorem absent {number : Nat} (missing : left.node? number = none) : right.node? number = none := by
  rcases h.node number with same | ⟨-, old, new, owner, mode, before, after⟩
  · exact same.trans missing
  · rw [before] at missing
    cases missing

theorem map_node {α : Type} {f : Node → α} (respects : ∀ a b, Node.Twins a b → f b = f a)
    (number : Nat) : (right.node? number).map f = (left.node? number).map f := by
  cases found : left.node? number with
  | none => rw [h.absent found]
  | some a =>
    obtain ⟨b, found', twins⟩ := h.twins found
    rw [found', Option.map_some, Option.map_some, respects a b twins]

theorem any_node {test : Node → Bool} (respects : ∀ a b, Node.Twins a b → test b = test a)
    (number : Nat) : (right.node? number).any test = (left.node? number).any test := by
  cases found : left.node? number with
  | none => rw [h.absent found]
  | some a =>
    obtain ⟨b, found', twins⟩ := h.twins found
    rw [found', Option.any_some, Option.any_some, respects a b twins]

/-- What is no secret is the same. -/
theorem content_eq {number : Nat} (open_ : ¬ secret number) :
    right.content number = left.content number := by
  rcases h.node number with same | ⟨hidden, -⟩
  · simp [content, same]
  · exact absurd hidden open_

/-- A change of one node that heeds no content. -/
theorem update (number : Nat) {change : Node → Node}
    (heedless : ∀ owner mode, ∃ owner' mode', ∀ content, ∃ content',
      change ⟨.file content, owner, mode⟩ = ⟨.file content', owner', mode'⟩) :
    AlikeBut secret (left.update number change) (right.update number change) where
  base := h.base
  user := h.user
  length := by simp [FileTree.update, h.length]
  node other := by
    by_cases here : number = other
    · subst here
      rcases h.node number with same | ⟨hidden, old, new, owner, mode, before, after⟩
      · left
        rw [node?_update_self, node?_update_self, same]
      · right
        obtain ⟨owner', mode', changed⟩ := heedless owner mode
        obtain ⟨old', changedOld⟩ := changed old
        obtain ⟨new', changedNew⟩ := changed new
        refine ⟨hidden, old', new', owner', mode', ?_, ?_⟩
        · rw [node?_update_self, before, Option.map_some, changedOld]
        · rw [node?_update_self, after, Option.map_some, changedNew]
    · rw [node?_update_ne _ _ here, node?_update_ne _ _ here]
      exact h.node other

theorem setMode (number mode : Nat) :
    AlikeBut secret (left.setMode number mode) (right.setMode number mode) :=
  h.update number fun owner _ => ⟨owner, mode, fun content => ⟨content, rfl⟩⟩

private theorem setEntries (number : Nat) (change : List (String × Nat) → List (String × Nat)) :
    AlikeBut secret (left.setEntries number change) (right.setEntries number change) :=
  h.update number fun owner mode => ⟨owner, mode, fun content => ⟨content, rfl⟩⟩

theorem setParent (number parent : Nat) :
    AlikeBut secret (left.setParent number parent) (right.setParent number parent) :=
  h.update number fun owner mode => ⟨owner, mode, fun content => ⟨content, rfl⟩⟩

theorem link (directory : Nat) (name : String) (target : Nat) :
    AlikeBut secret (left.link directory name target) (right.link directory name target) :=
  h.setEntries directory _

theorem unlink (directory : Nat) (name : String) :
    AlikeBut secret (left.unlink directory name) (right.unlink directory name) :=
  h.setEntries directory _

/-- A file gets content that is made of its own. -/
theorem setContent (number : Nat) (change : Bytes → Bytes) :
    AlikeBut secret (left.setContent number (change (left.content number)))
      (right.setContent number (change (right.content number))) where
  base := h.base
  user := h.user
  length := by simp [FileTree.setContent, FileTree.update, h.length]
  node other := by
    by_cases here : number = other
    · subst here
      rcases h.node number with same | ⟨hidden, old, new, owner, mode, before, after⟩
      · left
        simp [FileTree.setContent, content, same]
      · right
        exact ⟨hidden, change old, change new, owner, modeAfterWriting mode,
          by simp [FileTree.setContent, content, Node.content, before],
          by simp [FileTree.setContent, content, Node.content, after]⟩
    · simp only [FileTree.setContent]
      rw [node?_update_ne _ _ here, node?_update_ne _ _ here]
      exact h.node other

private theorem allocate (node : Node) :
    AlikeBut secret (left.allocate node).1 (right.allocate node).1 ∧
      (right.allocate node).2 = (left.allocate node).2 := by
  refine ⟨⟨h.base, h.user, by simp [FileTree.allocate, h.length], fun number => ?_⟩, h.length⟩
  rw [node?_allocate, node?_allocate, h.length]
  split
  · exact .inl rfl
  · exact h.node number

theorem created (directory : Nat) (name : String) (node : Node) :
    AlikeBut secret (left.created directory name node) (right.created directory name node) := by
  unfold FileTree.created
  rw [h.length]
  exact (h.allocate node).1.link directory name _

theorem openNode_eq (path : String) : right.openNode path = left.openNode path := by
  simp only [openNode, h.layout.resolve_eq, h.permits_eq]

theorem inheritedMode_eq {number : Nat} {name : String} (free : left.Vacant (.free number name)) :
    right.inheritedMode number = left.inheritedMode number := by
  obtain ⟨entries, parent, owner, mode, listed, -⟩ := free
  simp only [inheritedMode, listed, h.directory_eq.2 listed]

end AlikeBut

end FileTree

end ContainerLogs
