import ContainerLogs.Proofs.FileTree.Way
import ContainerLogs.Proofs.Path

/-!
Why lookups are refused. Of the refusals that a lookup can meet with, most only say that nothing
usable is there; those that do not are that a directory on the way may not be searched, and that a
name or the whole path is too long.
-/
namespace ContainerLogs

namespace FileTree

/-- The refusals of a lookup that asks for no file to be made. -/
def lookupErrors : List Errno :=
  [.noEntry, .notDirectory, .linkLoop, .accessDenied, .nameTooLong]

section Lookup

variable {tree : FileTree} {errno : Errno}

/-- In the working directory there is no telling what is under an overlong name. -/
theorem isDirectory_of_overlong {name : String} {entries : List (String × Nat)} {parent : Nat}
    (opens : tree.Opens tree.base entries parent) (plain : Path.PlainPart name)
    (valid : '\x00' ∉ name.toList) (long : maxNameBytes < name.utf8ByteSize)
    (fits : ¬ maxPathBytes < name.utf8ByteSize) :
    tree.isDirectory name = .error (.onPath .nameTooLong name) := by
  have other (short : String) (fits : short.utf8ByteSize ≤ maxNameBytes) : name ≠ short := by
    rintro rfl
    omega
  have path : Path.Plain ⟨"", [name]⟩ := ⟨.inl rfl, by simpa using plain⟩
  have steps := path.steps_text (by simp)
  have relative := path.isAbsolute_text (by simp)
  rw [Path.text_single] at steps relative
  obtain ⟨⟨owner, mode, listed⟩, granted⟩ := opens
  have walked : tree.walkLinks .node maxLinks tree.base [name] = .error .nameTooLong := by
    rw [maxLinks, walkLinks, walk]
    simp [listed, granted, long, other "" (by decide), other "." (by decide), other ".." (by decide)]
  have placed : tree.place name .node = .error (.onPath .nameTooLong name) := by
    simp [place, valid, fits, other "" (by decide), walkWhole, steps, relative, walked]
  simp [isDirectory, examine, stat, resolve, placed, meansAbsent, Refusal.onPath, bind, Except.bind,
    Errno.nameTooLong, Errno.noEntry, Errno.notDirectory, Errno.linkLoop, Errno.badDescriptor]

private theorem walk_error {onLink : Nat → List String → Except Errno Place}
    (linked : ∀ {start names errno}, onLink start names = .error errno → errno ∈ lookupErrors)
    {here : Nat} {names : List String}
    (refused : tree.walk onLink .node here names = .error errno) : errno ∈ lookupErrors := by
  induction names generalizing here with
  | nil => cases refused
  | cons name rest ih =>
    rw [walk] at refused
    split at refused
    · split at refused
      · exact ih refused
      split at refused
      · cases refused
        simp [lookupErrors]
      split at refused
      · exact ih refused
      split at refused
      · exact ih refused
      split at refused
      · cases refused
        simp [lookupErrors]
      split at refused
      · split at refused <;> cases refused
        simp [lookupErrors]
      · split at refused
        · rw [if_neg (by simp)] at refused
          split at refused
          · cases refused
            simp [lookupErrors]
          · simp only [walkWhole] at refused
            split at refused
            · rw [if_neg (by simp)] at refused
              exact linked refused
            · exact linked refused
        · exact ih refused
    · cases refused
      simp [lookupErrors]

private theorem walkLinks_error {links here : Nat} {names : List String}
    (refused : tree.walkLinks .node links here names = .error errno) : errno ∈ lookupErrors := by
  induction links generalizing here names errno with
  | zero =>
    refine walk_error ?_ refused
    rintro _ _ _ ⟨⟩
    simp [lookupErrors]
  | succ links ih => exact walk_error ih refused

private theorem place_error {path : String} {refusal : Refusal}
    (refused : tree.place path .node = .error refusal) :
    refusal = .nullInPath ∨ ∃ errno ∈ lookupErrors, refusal = .onPath errno path := by
  unfold place at refused
  simp only at refused
  split at refused
  · cases refused
    exact .inl rfl
  right
  split at refused
  · cases refused
    exact ⟨.noEntry, by simp [lookupErrors], rfl⟩
  split at refused
  · cases refused
    exact ⟨.nameTooLong, by simp [lookupErrors], rfl⟩
  split at refused
  · cases refused
  · rename_i errno walked
    cases refused
    rw [walkWhole, if_neg (by simp)] at walked
    exact ⟨errno, walkLinks_error walked, rfl⟩

/-- What a path leads to is left open only if the way there is barred. -/
theorem examine_error {path : String} {test : Node → Bool} {refusal : Refusal}
    (untold : tree.examine path test = .error refusal) :
    refusal = .onPath .accessDenied path ∨ refusal = .onPath .nameTooLong path := by
  unfold examine at untold
  cases looked : tree.stat path with
  | ok node => simp [looked] at untold
  | error other =>
    simp only [looked] at untold
    split at untold
    · cases untold
    rename_i present
    obtain rfl : other = refusal := by simpa using untold
    suffices other = .nullInPath ∨ ∃ errno ∈ lookupErrors, other = .onPath errno path by
      rcases this with rfl | ⟨errno, among, rfl⟩
      · exact absurd rfl present
      · simp only [lookupErrors, List.mem_cons, List.not_mem_nil, or_false] at among
        rcases among with rfl | rfl | rfl | rfl | rfl
        · exact absurd rfl present
        · exact absurd rfl present
        · exact absurd rfl present
        · exact .inl rfl
        · exact .inr rfl
    have absent : ∃ errno ∈ lookupErrors, Refusal.onPath .noEntry path = .onPath errno path :=
      ⟨.noEntry, by simp [lookupErrors], rfl⟩
    unfold stat resolve at looked
    cases placed : tree.place path .node with
    | error refusal =>
      simp only [placed, bind, Except.bind] at looked
      cases looked
      exact place_error placed
    | ok place =>
      cases place with
      | free =>
        simp only [placed, bind, Except.bind] at looked
        cases looked
        exact .inr absent
      | taken number =>
        simp only [placed, bind, Except.bind] at looked
        split at looked
        · cases looked
        · cases looked
          exact .inr absent

/-- Whether a path leads to a directory is left open only if the way there is barred. -/
theorem isDirectory_error {path : String} {refusal : Refusal}
    (untold : tree.isDirectory path = .error refusal) :
    refusal = .onPath .accessDenied path ∨ refusal = .onPath .nameTooLong path :=
  examine_error untold

private theorem examine_eq_ok_true_iff {path : String} {test : Node → Bool} :
    tree.examine path test = .ok true ↔ ∃ node, tree.stat path = .ok node ∧ test node = true := by
  unfold examine
  cases tree.stat path with
  | ok node => simp
  | error refusal =>
    simp only [reduceCtorEq, false_and, exists_false, iff_false]
    split <;> simp

/-- What is there and cannot be read is a directory or closed to the reader. -/
theorem contentAt_error {path : String} {refusal : Refusal}
    (present : tree.pathExists path = .ok true) (unread : tree.contentAt path = .error refusal) :
    refusal = .onPath .accessDenied path ∨ refusal = .onPath .isDirectory path := by
  obtain ⟨node, looked, -⟩ := examine_eq_ok_true_iff.1 present
  unfold stat at looked
  cases resolved : tree.resolve path with
  | error other =>
    simp only [resolved, bind, Except.bind] at looked
    cases looked
  | ok number =>
    simp only [contentAt, openForReading, openNode, resolved, bind, Except.bind] at unread
    by_cases readable : tree.permits number .read = true
    · simp only [if_pos readable] at unread
      split at unread
      · rename_i opening
        split at opening
        · cases opening
          cases unread
          exact .inr rfl
        · cases opening
      · cases unread
    · simp only [if_neg readable] at unread
      cases unread
      exact .inl rfl

/-- What is read is there. -/
theorem pathExists_of_contentAt {path : String} {content : Bytes}
    (read : tree.contentAt path = .ok content) : tree.pathExists path = .ok true := by
  rw [pathExists, examine_eq_ok_true_iff]
  unfold stat
  cases resolved : tree.resolve path with
  | error refusal =>
    simp only [contentAt, openForReading, openNode, resolved, bind, Except.bind] at read
    cases read
  | ok number =>
    simp only [contentAt, openForReading, openNode, resolved, bind, Except.bind] at read
    cases found : tree.node? number with
    | none =>
      simp only [permits, found, if_neg Bool.false_ne_true] at read
      cases read
    | some node => exact ⟨node, by simp [found, bind, Except.bind], rfl⟩

end Lookup

end FileTree

end ContainerLogs
