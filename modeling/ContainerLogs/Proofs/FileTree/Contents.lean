import ContainerLogs.Proofs.FileTree.Layout

/-!
What files hold. Making directories, opening a file for writing and setting a mode harm no file:
every file that was there holds what it held, and a file that is made holds nothing.
-/
namespace ContainerLogs.FileTree

/-- Keeping a directory changes nothing. -/
theorem keepDirectory_fst (tree : FileTree) (path : String) (refusal : Refusal) :
    (tree.keepDirectory path refusal).1 = tree := by
  unfold keepDirectory
  split
  · rfl
  · split <;> rfl

/-- What a file holds, if there is a file of that number. -/
def held? (tree : FileTree) (number : Nat) : Option Bytes :=
  match tree.node? number with
  | some ⟨.file content, _, _⟩ => some content
  | _ => none

/-- Every file that was there holds what it held, and files made since hold nothing. -/
def Unharmed (before after : FileTree) : Prop :=
  ∀ number, after.held? number = before.held? number ∨
    (before.held? number = none ∧ after.held? number = some [])

namespace Unharmed

variable {first second third : FileTree}

theorem refl (tree : FileTree) : Unharmed tree tree := fun _ => .inl rfl

theorem trans (h : Unharmed first second) (h' : Unharmed second third) : Unharmed first third := by
  intro number
  rcases h number with same | ⟨absent, empty⟩
  · rw [← same]
    exact h' number
  · right
    refine ⟨absent, ?_⟩
    rcases h' number with same | ⟨absent', -⟩
    · exact same.trans empty
    · rw [empty] at absent'
      cases absent'

theorem setMode (tree : FileTree) (number mode : Nat) : Unharmed tree (tree.setMode number mode) := by
  intro other
  left
  by_cases here : number = other
  · subst here
    unfold held? FileTree.setMode
    rw [node?_update_self]
    rcases tree.node? number with _ | ⟨kind, owner, mode'⟩
    · rfl
    · cases kind <;> rfl
  · unfold held? FileTree.setMode
    rw [node?_update_ne _ _ here]

/-- A new node harms no file, as long as it is no file with something in it. -/
private theorem created {tree : FileTree} {directory : Nat} {name : String} {node : Node}
    (free : tree.Vacant (.free directory name)) (hollow : node.isFile = true → node.content = []) :
    Unharmed tree (tree.created directory name node) := by
  obtain ⟨entries, parent, owner, mode, listed, -⟩ := free
  intro number
  by_cases here : number = directory
  · subst here
    left
    rw [held?, held?, node?_created_directory listed, listed]
  · rw [held?, held?, node?_created_ne here]
    by_cases new : number = tree.nodes.length
    · have absent : tree.node? number = none := by simp [node?, new]
      rw [if_pos new, absent]
      obtain ⟨kind, _, _⟩ := node
      cases kind with
      | file content => exact .inr ⟨rfl, congrArg some (hollow rfl)⟩
      | directory | symlink | fifo => exact .inl rfl
    · rw [if_neg new]
      exact .inl rfl

variable {tree after : FileTree} {process : Process}

theorem makeDirectory {path : String} {mode : Nat}
    (made : tree.makeDirectory process path mode = .ok after) : Unharmed tree after := by
  unfold FileTree.makeDirectory at made
  cases placed : tree.place path .link with
  | error refusal =>
    rw [placed] at made
    cases made
  | ok place =>
    rw [placed] at made
    cases place with
    | taken => cases made
    | free directory name =>
      simp only [bind, Except.bind] at made
      split at made
      · cases made
      · cases made
        exact created (vacant_of_place placed) nofun

theorem openForWriting {path : String} {mode number : Nat}
    (opened : tree.openForWriting process path mode = .ok (after, number)) : Unharmed tree after := by
  rcases openForWriting_eq_ok opened with ⟨-, -, rfl⟩ | ⟨directory, name, placed, rfl, -⟩
  · exact .refl after
  · exact created (vacant_of_place placed) fun _ => rfl

end Unharmed

end ContainerLogs.FileTree
