import ContainerLogs.FileTree.Change
import ContainerLogs.Proofs.FileTree.Alike

/-!
No request tells trees apart that differ in what some files hold, unless it reads those files: each
is refused in both or in neither, and leaves trees that differ in what the same files hold.
-/
namespace ContainerLogs

/-- Both results are refused alike, or both are there and stand in a relation. -/
inductive Both {ε α β : Type} (related : α → β → Prop) : Except ε α → Except ε β → Prop where
  | refused (refusal : ε) : Both related (.error refusal) (.error refusal)
  | done {a : α} {b : β} (h : related a b) : Both related (.ok a) (.ok b)

private theorem Both.bind {ε α β γ δ : Type} {related : α → β → Prop} {related' : γ → δ → Prop}
    {x : Except ε α} {y : Except ε β} {f : α → Except ε γ} {g : β → Except ε δ}
    (h : Both related x y) (next : ∀ a b, related a b → Both related' (f a) (g b)) :
    Both related' (x >>= f) (y >>= g) := by
  cases h with
  | refused refusal => exact .refused refusal
  | done related => exact next _ _ related

namespace FileTree

/-- Outcomes that end alike and leave trees that are alike. -/
def AlikeOutcomes (secret : Nat → Prop) (left right : Outcome) : Prop :=
  AlikeBut secret left.1 right.1 ∧ right.2 = left.2

/-- A tree in which a node has left one entry and taken the place of another. -/
def moved (tree : FileTree) (before after : Entry) (number : Nat) (isDirectory : Bool) : FileTree :=
  let linked := ((tree.unlink before.directory before.name).unlink after.directory after.name).link
    after.directory after.name number
  if isDirectory then linked.setParent number after.directory else linked

namespace AlikeBut

variable {secret : Nat → Prop} {left right : FileTree}

section Requests

variable (h : AlikeBut secret left right)
include h

theorem stat (path : String) (purpose : Purpose) :
    Both Node.Twins (left.stat path purpose) (right.stat path purpose) := by
  unfold FileTree.stat
  rw [h.layout.resolve_eq]
  cases left.resolve path purpose with
  | error refusal => exact .refused refusal
  | ok number =>
    simp only [bind, Except.bind]
    cases found : left.node? number with
    | none =>
      rw [h.absent found]
      exact .refused _
    | some a =>
      obtain ⟨b, found', twins⟩ := h.twins found
      rw [found']
      exact .done twins

private theorem examine_eq (path : String) {test : Node → Bool}
    (respects : ∀ a b, Node.Twins a b → test b = test a) :
    right.examine path test = left.examine path test := by
  have both := h.stat path .node
  unfold examine
  generalize left.stat path = first, right.stat path = second at both
  cases both with
  | refused refusal => rfl
  | done twins => simp only [respects _ _ twins]

theorem isDirectory_eq (path : String) : right.isDirectory path = left.isDirectory path :=
  h.examine_eq path fun _ _ twins => twins.isDirectory

private theorem makeDirectory (process : Process) (path : String) (mode : Nat) :
    Both (AlikeBut secret) (left.makeDirectory process path mode)
      (right.makeDirectory process path mode) := by
  unfold FileTree.makeDirectory
  rw [h.layout.place_eq]
  cases placed : left.place path .link with
  | error refusal => exact .refused refusal
  | ok place =>
    cases place with
    | taken number => exact .refused _
    | free directory name =>
      simp only [bind, Except.bind, h.permits_eq, h.inheritedMode_eq (vacant_of_place placed), h.user]
      split
      · exact .refused _
      · exact .done (h.created directory name _)

private theorem keepDirectory (path : String) (refusal : Refusal) :
    AlikeOutcomes secret (left.keepDirectory path refusal) (right.keepDirectory path refusal) := by
  unfold FileTree.keepDirectory
  rw [h.isDirectory_eq]
  split
  · exact ⟨h, rfl⟩
  · split <;> exact ⟨h, rfl⟩

private theorem makeOrKeep (process : Process) (path : String) (mode : Nat) :
    AlikeOutcomes secret (left.makeOrKeep process path mode) (right.makeOrKeep process path mode) := by
  have both := h.makeDirectory process path mode
  unfold FileTree.makeOrKeep
  generalize left.makeDirectory process path mode = first,
    right.makeDirectory process path mode = second at both
  cases both with
  | done alike => exact ⟨alike, rfl⟩
  | refused refusal =>
    simp only
    split
    · exact ⟨h, rfl⟩
    · exact h.keepDirectory path refusal

private theorem makeDirectories (process : Process) (path : Path) (mode : Nat) :
    AlikeOutcomes secret (left.makeDirectories process path mode)
      (right.makeDirectories process path mode) := by
  rw [FileTree.makeDirectories.eq_def left, FileTree.makeDirectories.eq_def right]
  have both := h.makeDirectory process path.text mode
  generalize left.makeDirectory process path.text mode = first,
    right.makeDirectory process path.text mode = second at both
  cases both with
  | done alike => exact ⟨alike, rfl⟩
  | refused refusal =>
    simp only
    split
    · rename_i absent
      have shorter := Path.length_parent_lt absent.2
      have parents := makeDirectories process path.parent 0o777
      generalize left.makeDirectories process path.parent 0o777 = first,
        right.makeDirectories process path.parent 0o777 = second at parents
      obtain ⟨before, stopped⟩ := first
      obtain ⟨after, stopped'⟩ := second
      obtain ⟨alike, rfl⟩ : AlikeBut secret before after ∧ stopped' = stopped := parents
      cases stopped' with
      | none => exact alike.makeOrKeep process path.text mode
      | some refusal => exact ⟨alike, rfl⟩
    split
    · exact ⟨h, rfl⟩
    · exact h.keepDirectory path.text refusal
termination_by path.parts.length

private theorem openForWriting (process : Process) (path : String) (mode : Nat) :
    Both (fun a b => AlikeBut secret a.1 b.1 ∧ b.2 = a.2) (left.openForWriting process path mode)
      (right.openForWriting process path mode) := by
  unfold FileTree.openForWriting
  rw [h.layout.place_eq]
  cases placed : left.place path .creation with
  | error refusal => exact .refused refusal
  | ok place =>
    cases place with
    | taken number =>
      simp only [bind, Except.bind, h.permits_eq]
      rcases h.node number with same | ⟨-, old, new, owner, mode, before, after⟩
      · rw [same]
        split
        · exact .refused _
        · split
          · exact .done ⟨h, rfl⟩
          · exact .refused _
      · simp only [before, after]
        split
        · exact .done ⟨h, rfl⟩
        · exact .refused _
    | free directory name =>
      simp only [bind, Except.bind, h.permits_eq, h.user]
      split
      · exact .refused _
      · exact .done ⟨h.created directory name _, h.length⟩

private theorem changeMode (path : String) (mode : Nat) :
    Both (AlikeBut secret) (left.changeMode path mode) (right.changeMode path mode) := by
  unfold FileTree.changeMode
  rw [h.layout.resolve_eq, h.user]
  cases left.resolve path with
  | error refusal => exact .refused refusal
  | ok number =>
    have owned : (right.node? number).any (·.owner = left.user) =
        (left.node? number).any (·.owner = left.user) :=
      h.any_node (fun _ _ twins => by rw [twins.owner]) number
    simp only [bind, Except.bind, owned]
    split
    · exact .done (h.setMode number mode)
    · exact .refused _

private theorem changeOwner (path : String) (owner : Nat) :
    Both (AlikeBut secret) (left.changeOwner path owner) (right.changeOwner path owner) := by
  unfold FileTree.changeOwner
  rw [h.layout.resolve_eq, h.user]
  cases left.resolve path with
  | error refusal => exact .refused refusal
  | ok number =>
    simp only [bind, Except.bind]
    split
    · exact .done (h.update number fun _ mode => ⟨owner, mode, fun content => ⟨content, rfl⟩⟩)
    · exact .refused _

private theorem truncate (path : String) (size : Nat) :
    Both (AlikeBut secret) (left.truncate path size) (right.truncate path size) := by
  unfold FileTree.truncate
  rw [h.layout.resolve_eq]
  cases left.resolve path with
  | error refusal => exact .refused refusal
  | ok number =>
    have cut : AlikeBut secret (left.resize number size) (right.resize number size) :=
      h.setContent number (resized · size)
    simp only [bind, Except.bind, h.permits_eq]
    rcases h.node number with same | ⟨-, old, new, owner, mode, before, after⟩
    · rw [same]
      split
      · split
        · exact .done cut
        · exact .refused _
      · exact .refused _
      · exact .refused _
    · simp only [before, after]
      split
      · exact .done cut
      · exact .refused _

private theorem entry_eq (path : String) (unnamed : Errno) (subjects : List String) :
    right.entry path unnamed subjects = left.entry path unnamed subjects := by
  unfold entry
  simp only [h.layout.walkLinks_eq, h.base, h.permits_eq]
  split
  · rfl
  split
  · rfl
  split
  · rfl
  split
  · rfl
  · rfl
  · rename_i directory _
    rcases h.node directory with same | ⟨-, old, new, owner, mode, before, after⟩
    · rw [same]
    · simp only [before, after]

private theorem makeNode (path : String) (kind : NodeKind) (mode : Nat) :
    Both (AlikeBut secret) (left.makeNode path kind mode) (right.makeNode path kind mode) := by
  unfold FileTree.makeNode
  rw [h.entry_eq]
  cases left.entry path .alreadyExists [path] with
  | error refusal => exact .refused refusal
  | ok entry =>
    simp only [bind, Except.bind, h.permits_eq, h.user]
    split
    · exact .refused _
    split
    · exact .refused _
    split
    · exact .refused _
    · exact .done (h.created _ _ _)

private theorem removeFile (path : String) :
    Both (AlikeBut secret) (left.removeFile path) (right.removeFile path) := by
  unfold FileTree.removeFile
  rw [h.entry_eq]
  cases left.entry path .isDirectory [path] with
  | error refusal => exact .refused refusal
  | ok entry =>
    simp only [bind, Except.bind, h.permits_eq]
    cases entry.number? with
    | none => exact .refused _
    | some number =>
      simp only [Option.bind_some]
      cases found : left.node? number with
      | none =>
        rw [h.absent found]
        exact .refused _
      | some a =>
        obtain ⟨b, found', twins⟩ := h.twins found
        simp only [found', twins.isDirectory]
        split
        · exact .refused _
        split
        · exact .refused _
        split
        · exact .refused _
        · exact .done (h.unlink _ _)

private theorem emptiable_eq (depth number : Nat) :
    right.emptiable depth number = left.emptiable depth number := by
  induction depth generalizing number with
  | zero => rfl
  | succ depth ih =>
    rcases h.node number with same | ⟨-, old, new, owner, mode, before, after⟩
    · simp only [emptiable, same, h.permits_eq, ih]
    · simp only [emptiable, before, after]

private theorem removeTree (path : String) :
    Both (AlikeBut secret) (left.removeTree path) (right.removeTree path) := by
  unfold FileTree.removeTree
  rw [h.openNode_eq, h.entry_eq]
  cases left.openNode path with
  | error refusal => exact .refused refusal
  | ok _ =>
    simp only [bind, Except.bind]
    cases left.entry path .invalid [path] with
    | error refusal => exact .refused refusal
    | ok entry =>
      simp only
      cases entry.number? with
      | none => exact .refused _
      | some number =>
        simp only [h.any_node fun _ _ twins => twins.isDirectory, h.permits_eq, h.emptiable_eq,
          h.length]
        split
        · exact .refused _
        split
        · exact .done (h.unlink _ _)
        · exact .refused _

private theorem moved (before after : Entry) (number : Nat) (isDirectory : Bool) : AlikeBut secret
    (left.moved before after number isDirectory) (right.moved before after number isDirectory) := by
  have linked := ((h.unlink before.directory before.name).unlink after.directory after.name).link
    after.directory after.name number
  unfold FileTree.moved
  split
  · exact linked.setParent number after.directory
  · exact linked

private theorem rename (source target : String) :
    Both (AlikeBut secret) (left.rename source target) (right.rename source target) := by
  unfold FileTree.rename
  rw [h.entry_eq, h.entry_eq]
  cases left.entry source .busy [source, target] with
  | error refusal => exact .refused refusal
  | ok before =>
    cases left.entry target .busy [source, target] with
    | error refusal => exact .refused refusal
    | ok after =>
      simp only [bind, Except.bind]
      cases before.number? with
      | none => exact .refused _
      | some number =>
        simp only [h.map_node fun _ _ twins => twins.isDirectory, h.permits_eq]
        generalize ((left.node? number).map Node.isDirectory).getD false = isDirectory
        have moved := h.moved before after number isDirectory
        cases after.number? with
        | none =>
          simp only
          split
          · exact .done moved
          · exact .refused _
        | some other =>
          simp only
          split
          · exact .done h
          split
          · exact .refused _
          rcases h.node other with same | ⟨-, old, new, owner, mode, found, found'⟩
          · rw [same]
            split
            · exact .refused _
            · split
              · exact .done moved
              · exact .refused _
            · exact .refused _
            · exact .done moved
          · simp only [found, found']
            cases isDirectory with
            | true => exact .refused _
            | false => exact .done moved

end Requests

end AlikeBut

end FileTree

open FileTree (AlikeBut AlikeOutcomes)

namespace Change

variable {secret : Nat → Prop} {left right : FileTree}

private theorem settle_alike {first second : Except Refusal FileTree}
    (h : AlikeBut secret left right) (both : Both (AlikeBut secret) first second) :
    AlikeOutcomes secret (settle left first) (settle right second) := by
  cases both with
  | refused refusal => exact ⟨h, rfl⟩
  | done alike => exact ⟨alike, rfl⟩

private theorem andThen_alike {first second : FileTree.Outcome}
    {next : FileTree → Except Refusal FileTree} (before : AlikeOutcomes secret first second)
    (step : ∀ {left right}, AlikeBut secret left right →
      Both (AlikeBut secret) (next left) (next right)) :
    AlikeOutcomes secret (andThen first next) (andThen second next) := by
  obtain ⟨left, stopped⟩ := first
  obtain ⟨right, stopped'⟩ := second
  obtain ⟨alike, rfl⟩ : AlikeBut secret left right ∧ stopped' = stopped := before
  cases stopped' with
  | none => exact settle_alike alike (step alike)
  | some refusal => exact ⟨alike, rfl⟩

variable (h : AlikeBut secret left right)
include h

private theorem makeParents_alike (path : String) :
    AlikeOutcomes secret (makeParents path left) (makeParents path right) := by
  unfold makeParents
  simp only
  split
  · exact ⟨h, rfl⟩
  · exact h.makeDirectories changing _ _

private theorem replace_alike (path : String) (content : Bytes) :
    Both (AlikeBut secret) (replace path content left) (replace path content right) := by
  refine (h.openForWriting changing path 0o666).bind ?_
  rintro ⟨left, number⟩ ⟨right, number'⟩ ⟨alike, same⟩
  obtain rfl : number' = number := same
  exact .done (alike.setContent number' fun _ => content)

private theorem extend_alike (path : String) (content : Bytes) :
    Both (AlikeBut secret) (extend path content left) (extend path content right) := by
  refine (h.openForWriting changing path 0o666).bind ?_
  rintro ⟨left, number⟩ ⟨right, number'⟩ ⟨alike, same⟩
  obtain rfl : number' = number := same
  refine .done ?_
  unfold FileTree.store
  split
  · exact alike
  · exact alike.setContent number' fun old => FileTree.overwritten old old.length content

private theorem clear_alike (path : String) :
    Both (AlikeBut secret) (clear path left) (clear path right) := by
  have both := h.stat path .link
  unfold clear
  generalize left.stat path .link = first, right.stat path .link = second at both
  cases both with
  | refused refusal => exact .done h
  | done twins => exact h.removeFile path

omit h in
private theorem handOver_alike {first second : FileTree.Outcome}
    (before : AlikeOutcomes secret first second) (path : String) (owner mode : Nat) :
    AlikeOutcomes secret (handOver first path owner mode) (handOver second path owner mode) :=
  andThen_alike (andThen_alike before fun alike => alike.changeOwner path owner)
    fun alike => alike.changeMode path mode

/-- A change is made of alike trees alike. -/
private theorem apply_alike (change : Change) :
    AlikeOutcomes secret (apply left change) (apply right change) := by
  cases change with
  | file path content owner mode =>
    exact handOver_alike (andThen_alike (makeParents_alike h path)
      fun alike => replace_alike alike path content) path owner mode
  | directory path owner mode =>
    exact handOver_alike (h.makeDirectories changing (Path.ofText path) 0o755) path owner mode
  | symlink path target =>
    exact andThen_alike (makeParents_alike h path) fun alike =>
      alike.makeNode path (.symlink target) 0o777
  | fifo path =>
    exact andThen_alike (andThen_alike (makeParents_alike h path) fun alike =>
      clear_alike alike path) fun alike => alike.makeNode path .fifo (changing.granted 0o666)
  | append path content => exact settle_alike h (extend_alike h path content)
  | truncate path size => exact settle_alike h (h.truncate path size)
  | rename source target => exact settle_alike h (h.rename source target)
  | remove path => exact settle_alike h (h.removeFile path)
  | removeTree path => exact settle_alike h (h.removeTree path)

theorem applyAll_alike (changes : List Change) :
    AlikeOutcomes secret (applyAll left changes) (applyAll right changes) := by
  induction changes generalizing left right with
  | nil => exact ⟨h, rfl⟩
  | cons change changes ih =>
    have first := apply_alike h change
    unfold applyAll
    generalize apply left change = before, apply right change = after at first
    obtain ⟨left', stopped⟩ := before
    obtain ⟨right', stopped'⟩ := after
    obtain ⟨alike, rfl⟩ : AlikeBut secret left' right' ∧ stopped' = stopped := first
    cases stopped' with
    | none => exact ih alike
    | some refusal => exact ⟨alike, rfl⟩

end Change

namespace Act

variable {secret : Nat → Prop} {left right : FileTree}

private theorem perform_alike (h : AlikeBut secret left right) (act : Act) :
    AlikeBut secret (perform left act) (perform right act) := by
  obtain ⟨alike, -⟩ := Change.apply_alike (h.as act.user) act.change
  have own := alike.as right.user
  unfold perform
  rw [← h.user]
  exact own

theorem performAll_alike (h : AlikeBut secret left right) (acts : List Act) :
    AlikeBut secret (performAll left acts) (performAll right acts) := by
  induction acts generalizing left right with
  | nil => exact h
  | cons act acts ih => exact ih (perform_alike h act)

end Act

end ContainerLogs
