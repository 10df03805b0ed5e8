import ContainerLogs.Proofs.FileTree.Concealment
import ContainerLogs.Proofs.FileTree.Contents

/-!
Files under their numbers. A number stands for one file for good: whatever is renamed, replaced,
removed, cut or put under its name, what was a file under a number stays one under it. So what is
read through the number of an open file is read from the file that was opened.
-/
namespace ContainerLogs

/-- What a request yields, if it is granted, has a property. -/
def Grants {α : Type} (holds : α → Prop) (result : Except Refusal α) : Prop :=
  ∀ a, result = .ok a → holds a

namespace Grants

variable {α β : Type} {holds : α → Prop} {holds' : β → Prop}

private theorem refused (refusal : Refusal) : Grants holds (.error refusal) := nofun

private theorem granted {a : α} (h : holds a) : Grants holds (.ok a) := by
  rintro _ ⟨⟩
  exact h

private theorem bind {first : Except Refusal α} {next : α → Except Refusal β}
    (h : Grants holds first) (others : ∀ a, holds a → Grants holds' (next a)) :
    Grants holds' (first >>= next) := by
  cases first with
  | error refusal => exact .refused refusal
  | ok a => exact others a (h a rfl)

/-- What is found out first does not matter if the property holds whatever that is. -/
private theorem whatever {first : Except Refusal α} {next : α → Except Refusal β}
    (others : ∀ a, Grants holds' (next a)) : Grants holds' (first >>= next) := by
  cases first with
  | error refusal => exact .refused refusal
  | ok a => exact others a

end Grants

namespace FileTree

theorem held?_eq_some {tree : FileTree} {number : Nat} {content : Bytes} :
    tree.held? number = some content ↔
      ∃ owner mode, tree.node? number = some ⟨.file content, owner, mode⟩ := by
  unfold held?
  rcases tree.node? number with _ | ⟨kind, owner, mode⟩
  · simp
  · cases kind <;> simp

/-- Every file is still there under its number, whatever it holds by now. -/
def Lasts (before after : FileTree) : Prop :=
  ∀ number content, before.held? number = some content →
    ∃ content', after.held? number = some content'

namespace Lasts

variable {first second third tree : FileTree}

theorem refl (tree : FileTree) : Lasts tree tree := fun _ content found => ⟨content, found⟩

theorem trans (h : Lasts first second) (h' : Lasts second third) : Lasts first third := by
  intro number content found
  obtain ⟨content', found'⟩ := h number content found
  exact h' number content' found'

private theorem update (tree : FileTree) (number : Nat) {change : Node → Node}
    (keeps : ∀ content owner mode, (change ⟨.file content, owner, mode⟩).isFile = true) :
    Lasts tree (tree.update number change) := by
  intro other content found
  by_cases here : number = other
  · subst here
    obtain ⟨owner, mode, node⟩ := held?_eq_some.1 found
    have still := keeps content owner mode
    rcases changed : change ⟨.file content, owner, mode⟩ with ⟨kind, owner', mode'⟩
    rw [changed] at still
    cases kind with
    | file content' =>
      refine ⟨content', held?_eq_some.2 ⟨owner', mode', ?_⟩⟩
      rw [node?_update_self, node, ← changed]
      rfl
    | directory | symlink | fifo => cases still
  · refine ⟨content, ?_⟩
    rw [held?, node?_update_ne _ _ here]
    exact found

private theorem setMode (tree : FileTree) (number mode : Nat) :
    Lasts tree (tree.setMode number mode) :=
  update tree number fun _ _ _ => rfl

private theorem setContent (tree : FileTree) (number : Nat) (content : Bytes) :
    Lasts tree (tree.setContent number content) :=
  update tree number fun _ _ _ => rfl

private theorem setEntries (tree : FileTree) (number : Nat)
    (change : List (String × Nat) → List (String × Nat)) :
    Lasts tree (tree.setEntries number change) :=
  update tree number fun _ _ _ => rfl

private theorem setParent (tree : FileTree) (number parent : Nat) :
    Lasts tree (tree.setParent number parent) :=
  update tree number fun _ _ _ => rfl

private theorem unlink (tree : FileTree) (directory : Nat) (name : String) :
    Lasts tree (tree.unlink directory name) :=
  setEntries tree directory _

private theorem link (tree : FileTree) (directory : Nat) (name : String) (target : Nat) :
    Lasts tree (tree.link directory name target) :=
  setEntries tree directory _

private theorem store (tree : FileTree) (number offset : Nat) (bytes : Bytes) :
    Lasts tree (tree.store number offset bytes) := by
  unfold FileTree.store
  split
  · exact .refl tree
  · exact setContent tree number _

/-- A new node takes no number that was in use. -/
private theorem allocate (tree : FileTree) (node : Node) : Lasts tree (tree.allocate node).1 := by
  intro number content found
  obtain ⟨owner, mode, node'⟩ := held?_eq_some.1 found
  have old := Nat.ne_of_lt (lt_length_of_node? node')
  refine ⟨content, held?_eq_some.2 ⟨owner, mode, ?_⟩⟩
  rw [node?_allocate, if_neg old]
  exact node'

private theorem created (tree : FileTree) (directory : Nat) (name : String) (node : Node) :
    Lasts tree (tree.created directory name node) :=
  (allocate tree node).trans (link _ directory name _)

/-- For whom the requests are made does not matter. -/
private theorem as (h : Lasts first second) (user user' : Nat) :
    Lasts { first with user := user } { second with user := user' } := h

end Lasts

section Requests

variable (tree : FileTree)

private theorem makeDirectory_lasts (process : Process) (path : String) (mode : Nat) :
    Grants (Lasts tree) (tree.makeDirectory process path mode) := by
  unfold makeDirectory
  apply Grants.whatever
  intro place
  cases place with
  | taken number => exact .refused _
  | free directory name =>
    simp only
    split
    · exact .refused _
    · exact .granted (.created tree directory name _)

private theorem makeOrKeep_lasts (process : Process) (path : String) (mode : Nat) :
    Lasts tree (tree.makeOrKeep process path mode).1 := by
  unfold makeOrKeep
  cases made : tree.makeDirectory process path mode with
  | ok after => exact tree.makeDirectory_lasts process path mode after made
  | error refusal =>
    simp only
    split
    · exact .refl tree
    · rw [keepDirectory_fst]
      exact .refl tree

private theorem makeDirectories_lasts (process : Process) (path : Path) (mode : Nat) :
    Lasts tree (tree.makeDirectories process path mode).1 := by
  rw [makeDirectories.eq_def]
  cases made : tree.makeDirectory process path.text mode with
  | ok after => exact tree.makeDirectory_lasts process path.text mode after made
  | error refusal =>
    simp only
    split
    · rename_i absent
      have shorter := Path.length_parent_lt absent.2
      have parents := makeDirectories_lasts process path.parent 0o777
      rcases ancestors : tree.makeDirectories process path.parent 0o777 with ⟨between, _ | stopped⟩
      · rw [ancestors] at parents
        exact parents.trans (between.makeOrKeep_lasts process path.text mode)
      · rw [ancestors] at parents
        exact parents
    split
    · exact .refl tree
    · rw [keepDirectory_fst]
      exact .refl tree
termination_by path.parts.length

private theorem openForWriting_lasts (process : Process) (path : String) (mode : Nat) :
    Grants (fun opened => Lasts tree opened.1) (tree.openForWriting process path mode) := by
  unfold openForWriting
  apply Grants.whatever
  intro place
  cases place with
  | taken number =>
    simp only
    split
    · exact .refused _
    split
    · exact .granted (.refl tree)
    · exact .refused _
  | free directory name =>
    simp only
    split
    · exact .refused _
    · exact .granted (.created tree directory name _)

private theorem changeMode_lasts (path : String) (mode : Nat) :
    Grants (Lasts tree) (tree.changeMode path mode) := by
  apply Grants.whatever
  intro number
  split
  · exact .granted (.setMode tree number mode)
  · exact .refused _

private theorem changeOwner_lasts (path : String) (owner : Nat) :
    Grants (Lasts tree) (tree.changeOwner path owner) := by
  apply Grants.whatever
  intro number
  split
  · exact .granted (.update tree number fun _ _ _ => rfl)
  · exact .refused _

private theorem truncate_lasts (path : String) (size : Nat) :
    Grants (Lasts tree) (tree.truncate path size) := by
  apply Grants.whatever
  intro number
  split
  · split
    · exact .granted (.setContent tree number _)
    · exact .refused _
  · exact .refused _
  · exact .refused _

private theorem makeNode_lasts (path : String) (kind : NodeKind) (mode : Nat) :
    Grants (Lasts tree) (tree.makeNode path kind mode) := by
  apply Grants.whatever
  intro entry
  simp only
  split
  · exact .refused _
  split
  · exact .refused _
  split
  · exact .refused _
  · exact .granted (.created tree entry.directory entry.name _)

private theorem removeFile_lasts (path : String) : Grants (Lasts tree) (tree.removeFile path) := by
  apply Grants.whatever
  intro entry
  split
  · exact .refused _
  split
  · exact .refused _
  split
  · exact .refused _
  split
  · exact .refused _
  · exact .granted (.unlink tree entry.directory entry.name)

private theorem removeTree_lasts (path : String) : Grants (Lasts tree) (tree.removeTree path) := by
  apply Grants.whatever
  intro number
  apply Grants.whatever
  intro entry
  split
  · exact .refused _
  split
  · exact .refused _
  split
  · exact .granted (.unlink tree entry.directory entry.name)
  · exact .refused _

/-- Moving a name changes entries of directories only. -/
private theorem moved_lasts (before after : Entry) (number : Nat) (isDirectory : Bool) :
    Lasts tree (tree.moved before after number isDirectory) := by
  have linked := ((Lasts.unlink tree before.directory before.name).trans
    (.unlink _ after.directory after.name)).trans (.link _ after.directory after.name number)
  unfold moved
  split
  · exact linked.trans (.setParent _ number after.directory)
  · exact linked

private theorem rename_lasts (source target : String) :
    Grants (Lasts tree) (tree.rename source target) := by
  unfold rename
  apply Grants.whatever
  intro before
  apply Grants.whatever
  intro after
  cases before.number? with
  | none => exact .refused _
  | some number =>
    simp only
    generalize ((tree.node? number).map Node.isDirectory).getD false = isDirectory
    have moved := tree.moved_lasts before after number isDirectory
    cases after.number? with
    | none =>
      simp only
      split
      · exact .granted moved
      · exact .refused _
    | some other =>
      simp only
      split
      · exact .granted (.refl tree)
      split
      · exact .refused _
      split
      · exact .refused _
      · split
        · exact .granted moved
        · exact .refused _
      · exact .refused _
      · exact .granted moved

end Requests

end FileTree

open FileTree (Lasts)

namespace Change

private theorem settle_lasts {before tree : FileTree} {next : Except Refusal FileTree}
    (h : Lasts before tree) (granted : Grants (Lasts tree) next) :
    Lasts before (settle tree next).1 := by
  cases next with
  | error refusal => exact h
  | ok after => exact h.trans (granted after rfl)

private theorem andThen_lasts {before : FileTree} {first : FileTree.Outcome}
    {next : FileTree → Except Refusal FileTree} (h : Lasts before first.1)
    (granted : ∀ tree, Grants (Lasts tree) (next tree)) : Lasts before (andThen first next).1 := by
  obtain ⟨tree, stopped⟩ := first
  cases stopped with
  | none => exact settle_lasts h (granted tree)
  | some refusal => exact h

private theorem makeParents_lasts (path : String) (tree : FileTree) :
    Lasts tree (makeParents path tree).1 := by
  unfold makeParents
  simp only
  split
  · exact .refl tree
  · exact tree.makeDirectories_lasts changing _ _

private theorem replace_lasts (path : String) (content : Bytes) (tree : FileTree) :
    Grants (Lasts tree) (replace path content tree) := by
  unfold replace
  refine Grants.bind (tree.openForWriting_lasts changing path 0o666) ?_
  rintro ⟨opened, number⟩ h
  exact .granted (h.trans (.setContent opened number content))

private theorem extend_lasts (path : String) (content : Bytes) (tree : FileTree) :
    Grants (Lasts tree) (extend path content tree) := by
  unfold extend
  refine Grants.bind (tree.openForWriting_lasts changing path 0o666) ?_
  rintro ⟨opened, number⟩ h
  exact .granted (h.trans (.store opened number _ content))

private theorem clear_lasts (path : String) (tree : FileTree) :
    Grants (Lasts tree) (clear path tree) := by
  unfold clear
  split
  · exact tree.removeFile_lasts path
  · exact .granted (.refl tree)

private theorem handOver_lasts {before : FileTree} {first : FileTree.Outcome}
    (h : Lasts before first.1) (path : String) (owner mode : Nat) :
    Lasts before (handOver first path owner mode).1 := by
  apply andThen_lasts
  · apply andThen_lasts h
    intro tree
    exact tree.changeOwner_lasts path owner
  · intro tree
    exact tree.changeMode_lasts path mode

/-- Whatever change is made, and however far it comes, every file lasts. -/
private theorem apply_lasts (tree : FileTree) (change : Change) :
    Lasts tree (apply tree change).1 := by
  cases change with
  | file path content owner mode =>
    have written := andThen_lasts (makeParents_lasts path tree) (replace_lasts path content)
    exact handOver_lasts written path owner mode
  | directory path owner mode =>
    exact handOver_lasts (tree.makeDirectories_lasts changing (Path.ofText path) 0o755) path owner
      mode
  | symlink path target =>
    apply andThen_lasts (makeParents_lasts path tree)
    intro between
    exact between.makeNode_lasts path (.symlink target) 0o777
  | fifo path =>
    have cleared := andThen_lasts (makeParents_lasts path tree) (clear_lasts path)
    apply andThen_lasts cleared
    intro between
    exact between.makeNode_lasts path .fifo (changing.granted 0o666)
  | append path content => exact settle_lasts (.refl tree) (extend_lasts path content tree)
  | truncate path size => exact settle_lasts (.refl tree) (tree.truncate_lasts path size)
  | rename source target => exact settle_lasts (.refl tree) (tree.rename_lasts source target)
  | remove path => exact settle_lasts (.refl tree) (tree.removeFile_lasts path)
  | removeTree path => exact settle_lasts (.refl tree) (tree.removeTree_lasts path)

theorem applyAll_lasts (changes : List Change) (tree : FileTree) :
    Lasts tree (applyAll tree changes).1 := by
  induction changes generalizing tree with
  | nil => exact .refl tree
  | cons change changes ih =>
    have first := apply_lasts tree change
    unfold applyAll
    rcases changed : apply tree change with ⟨between, _ | refusal⟩
    · rw [changed] at first
      exact first.trans (ih between)
    · rw [changed] at first
      exact first

end Change

namespace Act

private theorem perform_lasts (tree : FileTree) (act : Act) : Lasts tree (perform tree act) :=
  (Change.apply_lasts { tree with user := act.user } act.change).as tree.user tree.user

theorem performAll_lasts (acts : List Act) (tree : FileTree) :
    Lasts tree (performAll tree acts) := by
  induction acts generalizing tree with
  | nil => exact .refl tree
  | cons act acts ih => exact (perform_lasts tree act).trans (ih _)

end Act

end ContainerLogs
