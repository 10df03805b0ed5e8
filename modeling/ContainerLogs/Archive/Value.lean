import ContainerLogs.Wire.Source

/-!
Values of records as they are read. All values of an archive share its bytes and its one reading
position; a value is a window over what stands there, as long as its record says and no longer.
-/
namespace ContainerLogs.Archive

/-- What is known of a value handed out before: its length and how much of it was not read. -/
structure Value where
  length : Nat
  remaining : Nat
  deriving DecidableEq, Repr

/-- A value as it is read: the archive's file stands behind it. -/
structure Window where
  source : Source
  value : Value
  isOpen : Bool := true

namespace Window

/-- The bytes of the value that can still be read. -/
def left (window : Window) : Bytes :=
  if window.isOpen then window.source.rest.take window.value.remaining else []

/-- Some bytes of the value, at most as many as demanded. Getting none of a value that is not read
to its end is a fault, even where none were demanded. -/
def pull (demand : Nat) : Reading Window Bytes := fun window =>
  if window.value.remaining = 0 then .ok [] window
  else if ¬ window.isOpen then .error .sourceClosed window
  else
    let (piece, source) := window.source.readLarge (min demand window.value.remaining)
    if piece.isEmpty then
      .error (.valueEnded window.value.remaining window.value.length) { window with source }
    else
      .ok piece { window with
        source
        value.remaining := window.value.remaining - piece.length }

theorem pull_eq_ok {demand : Nat} {before after : Window} {piece : Bytes}
    (unread : before.value.remaining ≠ 0) (pulled : pull demand before = .ok piece after) :
    before.isOpen = true ∧ piece ≠ [] ∧
      piece = before.source.rest.take (min demand before.value.remaining) ∧
      after.source.rest = before.source.rest.drop (min demand before.value.remaining) ∧
      after.value.remaining = before.value.remaining - piece.length ∧
      after.isOpen = before.isOpen := by
  unfold pull at pulled
  rw [if_neg unread] at pulled
  split at pulled
  · cases pulled
  · rename_i opened
    simp only at pulled
    split at pulled
    · cases pulled
    · rename_i nonempty
      cases pulled
      refine ⟨by simpa using opened, by simpa using nonempty, ?_, ?_, rfl, rfl⟩ <;>
        simp [Source.readLarge]

/-- Reads what is left of the value in pieces of a size; those read so far are held in reverse. If
the archive ends first, they are lost. -/
def gatherRest (size : Nat) (pieces : List Bytes) (window : Window) :
    EStateM.Result ReadFault Window Bytes :=
  if _finished : window.value.remaining = 0 then .ok pieces.reverse.flatten window
  else match _pulled : pull size window with
    | .error fault window => .error fault window
    | .ok piece rest => gatherRest size (piece :: pieces) rest
termination_by window.value.remaining
decreasing_by
  obtain ⟨_, nonempty, _, _, remaining, _⟩ := pull_eq_ok _finished _pulled
  have := List.length_pos_iff.2 nonempty
  omega

/-- The size of the pieces in which a value is read to its end. -/
def pieceBytes : Nat := 8192

/-- The size of the pieces in which a value is skipped. -/
def skippedBytes : Nat := 65536

/-- All that is left of the value. -/
def readAll : Reading Window Bytes := gatherRest pieceBytes []

/-- Skips what is left of the value. -/
def drain : Reading Window Unit := do let _ ← gatherRest skippedBytes []

theorem rest_of_gatherRest {size : Nat} {pieces : List Bytes} {before after : Window}
    {bytes : Bytes} (gathered : gatherRest size pieces before = .ok bytes after) :
    after.source.rest = before.source.rest.drop before.value.remaining := by
  fun_induction gatherRest size pieces before with
  | case1 pieces window finished =>
      cases gathered
      simp [finished]
  | case2 => cases gathered
  | case3 pieces window unread piece rest pulled ih =>
      obtain ⟨_, _, front, back, remaining, _⟩ := pull_eq_ok unread pulled
      rw [ih gathered, back, remaining, List.drop_drop]
      by_cases short : window.source.rest.length ≤ min size window.value.remaining
      · rw [List.drop_eq_nil_of_le (by omega), List.drop_eq_nil_of_le (by omega)]
      · have length : piece.length = min size window.value.remaining := by
          rw [front, List.length_take]
          omega
        rw [length]
        congr 1
        omega

theorem rest_of_drain {before after : Window} (drained : drain before = .ok () after) :
    after.source.rest = before.source.rest.drop before.value.remaining := by
  obtain ⟨piece, between, read, returned⟩ := Reading.bind_eq_ok.1 drained
  obtain ⟨_, rfl⟩ := Reading.pure_eq_ok.1 returned
  exact rest_of_gatherRest read

theorem left_of_pull {demand : Nat} {window rest : Window} {piece : Bytes}
    (pulled : pull demand window = .ok piece rest) : window.left = piece ++ rest.left := by
  by_cases finished : window.value.remaining = 0
  · unfold pull at pulled
    rw [if_pos finished] at pulled
    cases pulled
    simp [left, finished]
  · obtain ⟨opened, _, front, back, remaining, still⟩ := pull_eq_ok finished pulled
    simp only [left, still, opened, if_true, back, remaining, front, List.length_take]
    rw [← List.take_append_drop
      (min (min demand window.value.remaining) window.source.rest.length)
      (window.source.rest.take window.value.remaining)]
    congr 1
    · rw [List.take_take]
      apply List.take_eq_take_iff.2
      omega
    · rw [List.drop_take]
      congr 1
      rw [List.drop_eq_drop_iff]
      omega

theorem left_of_refusal {demand : Nat} {window rest : Window} {fault : ReadFault}
    (refused : pull demand window = .error fault rest) : rest.left = window.left := by
  unfold pull at refused
  split at refused
  · cases refused
  · split at refused
    · cases refused; rfl
    · simp only at refused
      split at refused
      · rename_i unread _ nothing
        cases refused
        simp only [Source.readLarge, Source.take_fst, List.isEmpty_iff,
          List.take_eq_nil_iff] at nothing
        simp only [left, Source.readLarge, Source.rest_take]
        rcases nothing with none_asked | none_left
        · rw [none_asked, List.drop_zero]
        · simp [none_left]
      · cases refused

theorem length_of_pull {demand : Nat} {window rest : Window} {piece : Bytes}
    (pulled : pull demand window = .ok piece rest) : piece.length ≤ demand := by
  by_cases finished : window.value.remaining = 0
  · unfold pull at pulled
    rw [if_pos finished] at pulled
    cases pulled
    simp
  · obtain ⟨_, _, front, _, _, _⟩ := pull_eq_ok finished pulled
    simp only [front, List.length_take]
    omega

theorem pull_progress {demand : Nat} {window : Window} (positive : 0 < demand)
    (some_left : window.left ≠ []) :
    ∃ piece rest, pull demand window = .ok piece rest ∧ piece ≠ [] := by
  have opened : window.isOpen = true := by
    cases isOpen : window.isOpen with
    | true => rfl
    | false => exact absurd (by simp [left, isOpen]) some_left
  simp only [left, opened, if_true, ne_eq, List.take_eq_nil_iff, not_or] at some_left
  have nonempty : window.source.rest.take (min demand window.value.remaining) ≠ [] := by
    simp only [ne_eq, List.take_eq_nil_iff, not_or]
    exact ⟨by omega, some_left.2⟩
  cases pulled : pull demand window with
  | ok piece rest => exact ⟨piece, rest, rfl, (pull_eq_ok some_left.1 pulled).2.1⟩
  | error fault rest =>
      simp [pull, opened, some_left.1, Source.readLarge, nonempty] at pulled

instance : Feed Window where
  left := left
  pull := pull
  left_of_pull := left_of_pull
  left_of_refusal := left_of_refusal
  length_of_pull := length_of_pull
  pull_progress := pull_progress

end Window

end ContainerLogs.Archive
