import ContainerLogs.Proofs.FileTree.Contents
import ContainerLogs.Proofs.Running

/-!
Watching a program is to run it step by step and to tell the trees that it leads through, one for each
request that is granted. What comes of a watched program is what comes of the program, and the last of
its trees is the one that it leaves.
-/
namespace ContainerLogs

theorem getLastD_append {α : Type} (front back : List α) (start : α) :
    (front ++ back).getLastD start = back.getLastD (front.getLastD start) := by
  cases back with
  | nil => simp
  | cons item back => simp [List.getLastD_eq_getLast?, List.getLast?_append]

/-- What came of a program, with the trees that it led through. -/
structure Watched (α : Type) where
  moments : List FileTree
  result : α

namespace Watched

variable {α β ε σ : Type}

/-- What is done without a request. -/
def still (result : α) : Watched α := ⟨[], result⟩

/-- One request, which leads to another tree if it is granted. -/
def request (treeOf : α → FileTree) (answer : Except Refusal α) : Watched (Except Refusal α) where
  moments :=
    match answer with
    | .ok a => [treeOf a]
    | .error _ => []
  result := answer

def andThen (first : Watched α) (next : α → Watched β) : Watched β where
  moments := first.moments ++ (next first.result).moments
  result := (next first.result).result

/-- Goes on where a program is done, and ends where it fails. -/
def chain (first : Watched (EStateM.Result ε σ α))
    (next : α → σ → Watched (EStateM.Result ε σ β)) : Watched (EStateM.Result ε σ β) :=
  first.andThen fun
    | .ok a after => next a after
    | .error fault after => still (.error fault after)

theorem result_chain {first : Watched (EStateM.Result ε σ α)}
    {next : α → σ → Watched (EStateM.Result ε σ β)} {program : EStateM ε σ α}
    {rest : α → EStateM ε σ β} {before : σ} (same : first.result = program before)
    (same' : ∀ a after, (next a after).result = rest a after) :
    (first.chain next).result = (program >>= rest) before := by
  simp only [chain, andThen, same]
  cases made : program before with
  | ok a after => rw [Running.bind_of_ok made, same']
  | error fault after => rw [Running.bind_of_error made]; rfl

theorem forall_andThen {first : Watched α} {next : α → Watched β} {holds : FileTree → Prop} :
    (∀ moment ∈ (first.andThen next).moments, holds moment) ↔
      (∀ moment ∈ first.moments, holds moment) ∧
        ∀ moment ∈ (next first.result).moments, holds moment :=
  List.forall_mem_append

/-- The last tree, which is the first one if no other was led through, is the one that is left. -/
def Ends (start : FileTree) (left : α → FileTree) (watched : Watched α) : Prop :=
  watched.moments.getLastD start = left watched.result

variable {start : FileTree} {left : α → FileTree} {left' : β → FileTree}

theorem ends_still {result : α} (same : left result = start) : (still result).Ends start left :=
  same.symm

theorem Ends.andThen {first : Watched α} {next : α → Watched β} (h : first.Ends start left)
    (h' : (next first.result).Ends (left first.result) left') :
    (first.andThen next).Ends start left' := by
  change (first.moments ++ (next first.result).moments).getLastD start = left' (next first.result).result
  rw [getLastD_append, h, h']

theorem Ends.chain {first : Watched (EStateM.Result ε σ α)}
    {next : α → σ → Watched (EStateM.Result ε σ β)} {treeOf : σ → FileTree}
    (h : first.Ends start fun result => treeOf (Running.leaving result))
    (h' : ∀ a after, first.result = .ok a after →
      (next a after).Ends (treeOf after) fun result => treeOf (Running.leaving result)) :
    (first.chain next).Ends start fun result => treeOf (Running.leaving result) := by
  refine h.andThen ?_
  cases made : first.result with
  | ok a after => exact h' a after made
  | error fault after => exact ends_still rfl

/-- A last tree is among those led through, or is the first one. -/
theorem Ends.holds {watched : Watched α} {holds : FileTree → Prop} (h : watched.Ends start left)
    (before : holds start) (throughout : ∀ moment ∈ watched.moments, holds moment) :
    holds (left watched.result) := by
  rw [← h]
  have last : watched.moments.getLastD start ∈ start :: watched.moments := List.getLastD_mem_cons
  rcases List.mem_cons.1 last with same | among
  · rwa [same]
  · exact throughout _ among

end Watched

open Watched (still request Ends)

namespace FileTree

variable (tree : FileTree) (process : Process)

def watchMakeOrKeep (path : String) (mode : Nat) : Watched Outcome :=
  (request id (tree.makeDirectory process path mode)).andThen fun
    | .ok made => still (made, none)
    | .error refusal =>
        still (if refusal.errno? = some .noEntry then (tree, some refusal)
          else tree.keepDirectory path refusal)

/-- Watches how a directory is made with its missing ancestors. -/
def watchDirectories (path : Path) (mode : Nat) : Watched Outcome :=
  (request id (tree.makeDirectory process path.text mode)).andThen fun
    | .ok made => still (made, none)
    | .error refusal =>
        if _absent : refusal.errno? = some .noEntry ∧ path.parts ≠ [] then
          (watchDirectories path.parent 0o777).andThen fun
            | (between, none) => between.watchMakeOrKeep process path.text mode
            | stopped => still stopped
        else
          still (if refusal.errno? = some .noEntry then (tree, some refusal)
            else tree.keepDirectory path.text refusal)
termination_by path.parts.length
decreasing_by
  exact Path.length_parent_lt _absent.2

private theorem result_watchMakeOrKeep (path : String) (mode : Nat) :
    (tree.watchMakeOrKeep process path mode).result = tree.makeOrKeep process path mode := by
  simp only [watchMakeOrKeep, makeOrKeep, Watched.andThen, request]
  cases tree.makeDirectory process path mode <;> rfl

theorem result_watchDirectories (path : Path) (mode : Nat) :
    (tree.watchDirectories process path mode).result = tree.makeDirectories process path mode := by
  rw [watchDirectories, makeDirectories]
  simp only [Watched.andThen, request]
  cases tree.makeDirectory process path.text mode with
  | ok made => rfl
  | error refusal =>
    simp only
    split
    · rename_i absent
      have shorter := Path.length_parent_lt absent.2
      rw [result_watchDirectories path.parent 0o777]
      generalize tree.makeDirectories process path.parent 0o777 = made
      obtain ⟨between, _ | refusal⟩ := made
      · exact between.result_watchMakeOrKeep process path.text mode
      · rfl
    · rfl
termination_by path.parts.length

/-- A request that is not granted leaves the tree as it is. -/
theorem ends_request (answer : Except Refusal FileTree) :
    (request id answer).Ends tree (fun | .ok made => made | .error _ => tree) := by
  cases answer <;> rfl

private theorem kept_fst (path : String) (refusal : Refusal) :
    (if refusal.errno? = some .noEntry then (tree, some refusal)
      else tree.keepDirectory path refusal).1 = tree := by
  split
  · rfl
  · exact tree.keepDirectory_fst path refusal

private theorem ends_watchMakeOrKeep (path : String) (mode : Nat) :
    (tree.watchMakeOrKeep process path mode).Ends tree Prod.fst := by
  refine (tree.ends_request _).andThen ?_
  cases tree.makeDirectory process path mode with
  | ok made => exact Watched.ends_still rfl
  | error refusal => exact Watched.ends_still (tree.kept_fst path refusal)

theorem ends_watchDirectories (path : Path) (mode : Nat) :
    (tree.watchDirectories process path mode).Ends tree Prod.fst := by
  rw [watchDirectories]
  refine (tree.ends_request _).andThen ?_
  cases tree.makeDirectory process path.text mode with
  | ok made => exact Watched.ends_still rfl
  | error refusal =>
    simp only [request]
    split
    · rename_i absent
      have shorter := Path.length_parent_lt absent.2
      refine (ends_watchDirectories path.parent 0o777).andThen ?_
      generalize (tree.watchDirectories process path.parent 0o777).result = made
      obtain ⟨between, _ | refusal⟩ := made
      · exact between.ends_watchMakeOrKeep process path.text mode
      · exact Watched.ends_still rfl
    · exact Watched.ends_still (tree.kept_fst path.text refusal)
termination_by path.parts.length

end FileTree

end ContainerLogs
