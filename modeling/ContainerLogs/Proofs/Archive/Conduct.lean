import ContainerLogs.Proofs.Archive.Grammar

/-!
How a reader conducts itself on any bytes. Its standing tells what is left of the current value and
what comes behind it; every read and every step to the next record keeps the standing true, and
which record comes next, or what goes wrong, is told by the grammar of what comes behind.
-/
namespace ContainerLogs.Archive

open Running
open Session (Fits)

namespace Window

variable {window : Window} {unread : Bytes} {missing : Nat}

/-- The archive ends within the value: behind what can still be read, some bytes are missing. -/
structure Lacks (window : Window) (unread : Bytes) (missing : Nat) : Prop where
  isOpen : window.isOpen = true
  rest : window.source.rest = unread
  remaining : window.value.remaining = unread.length + missing
  missing : missing ≠ 0

/-- An empty read of a value that is not read to its end fails, and takes nothing. -/
private theorem pull_zero (isOpen : window.isOpen = true)
    (unfinished : window.value.remaining ≠ 0) :
    ∃ source, pull 0 window =
        .error (.valueEnded window.value.remaining window.value.length) { window with source } ∧
      source.rest = window.source.rest := by
  refine ⟨(window.source.readLarge 0).2, ?_, ?_⟩
  · have nothing : (window.source.readLarge 0).1 = [] := by
      rw [Source.readLarge, Source.take_fst, List.take_zero]
    unfold pull
    rw [if_neg unfinished, if_neg (by simp [isOpen]), Nat.zero_min]
    simp only [nothing, List.isEmpty_nil, if_true]
  · rw [Source.readLarge, Source.rest_take, List.drop_zero]

private theorem Lacks.pull (h : window.Lacks unread missing) {demand : Nat} (positive : 0 < demand)
    (some_left : unread ≠ []) : ∃ after, pull demand window = .ok (unread.take demand) after ∧
      after.Lacks (unread.drop demand) missing ∧ after.value.length = window.value.length := by
  have unfinished : window.value.remaining ≠ 0 := by
    rw [h.remaining]
    exact Nat.ne_of_gt (Nat.add_pos_right _ (Nat.pos_of_ne_zero h.missing))
  have front : (window.source.readLarge (min demand window.value.remaining)).1 =
      unread.take demand := by
    rw [Source.readLarge, Source.take_fst, h.rest, h.remaining, List.take_eq_take_iff]
    omega
  have back : (window.source.readLarge (min demand window.value.remaining)).2.rest =
      unread.drop demand := by
    rw [Source.readLarge, Source.rest_take, h.rest, h.remaining, List.drop_eq_drop_iff]
    omega
  have nonempty : ¬ (unread.take demand).isEmpty := by
    rw [List.isEmpty_iff, List.take_eq_nil_iff]
    rintro (none_asked | none_left)
    · exact absurd none_asked (Nat.ne_of_gt positive)
    · exact some_left none_left
  unfold Window.pull
  rw [if_neg unfinished, if_neg (by simp [h.isOpen])]
  simp only [front]
  rw [if_neg nonempty]
  refine ⟨_, rfl, ⟨h.isOpen, back, ?_, h.missing⟩, rfl⟩
  simp only [h.remaining, List.length_take, List.length_drop]
  omega

/-- Past what is there, a read tells how much is missing. -/
private theorem Lacks.pull_end (h : window.Lacks [] missing) (demand : Nat) :
    ∃ after, Window.pull demand window = .error (.valueEnded missing window.value.length) after ∧
      after.Lacks [] missing ∧ after.value.length = window.value.length := by
  have remaining : window.value.remaining = missing := by simpa using h.remaining
  have nothing : (window.source.readLarge (min demand window.value.remaining)).1 = [] := by
    rw [Source.readLarge, Source.take_fst, h.rest, List.take_nil]
  have nothing' : (window.source.readLarge (min demand window.value.remaining)).2.rest = [] := by
    rw [Source.readLarge, Source.rest_take, h.rest, List.drop_nil]
  unfold Window.pull
  rw [if_neg (by rw [remaining]; exact h.missing), if_neg (by simp [h.isOpen])]
  simp only [nothing, List.isEmpty_nil, if_true]
  rw [remaining] at nothing' ⊢
  exact ⟨_, rfl, ⟨h.isOpen, nothing', by simpa using h.remaining, h.missing⟩, rfl⟩

private theorem Lacks.gatherRest (h : window.Lacks unread missing) {size : Nat}
    (positive : 0 < size) (pieces : List Bytes) : ∃ after,
    gatherRest size pieces window = .error (.valueEnded missing window.value.length) after ∧
      after.Lacks [] missing ∧ after.value.length = window.value.length := by
  induction count : unread.length using Nat.strongRecOn generalizing window unread pieces with
  | ind count ih =>
    subst count
    have unfinished : window.value.remaining ≠ 0 := by
      rw [h.remaining]
      exact Nat.ne_of_gt (Nat.add_pos_right _ (Nat.pos_of_ne_zero h.missing))
    rw [Window.gatherRest, dif_neg unfinished]
    by_cases none_left : unread = []
    · subst none_left
      obtain ⟨after, refused, lacks, same⟩ := h.pull_end size
      refine ⟨after, ?_, lacks, same⟩
      split
      · rename_i failed
        rw [refused] at failed
        cases failed
        rfl
      · rename_i given
        rw [refused] at given
        cases given
    · obtain ⟨between, pulled, lacks, length⟩ := h.pull positive none_left
      have shorter : (unread.drop size).length < unread.length := by
        have some_left := List.length_pos_iff.2 none_left
        rw [List.length_drop]
        omega
      obtain ⟨after, gathered, lacks', length'⟩ := ih _ shorter lacks (unread.take size :: pieces) rfl
      refine ⟨after, ?_, lacks', length'.trans length⟩
      split
      · rename_i failed
        rw [pulled] at failed
        cases failed
      · rename_i given
        rw [pulled] at given
        cases given
        rw [gathered, length]

private theorem Lacks.readAll (h : window.Lacks unread missing) :
    ∃ after, readAll window = .error (.valueEnded missing window.value.length) after ∧
      after.Lacks [] missing ∧ after.value.length = window.value.length :=
  h.gatherRest (by decide) []

theorem Lacks.drain (h : window.Lacks unread missing) :
    ∃ after, drain window = .error (.valueEnded missing window.value.length) after ∧
      after.Lacks [] missing ∧ after.value.length = window.value.length := by
  obtain ⟨after, failed, lacks, same⟩ := h.gatherRest (show 0 < skippedBytes by decide) []
  exact ⟨after, bind_of_error failed _, lacks, same⟩

end Window

namespace Reader

/-- A read of a value handed out: at most so many bytes, or all that is left. -/
structure Read where
  number : Nat
  demand : Option Nat

def Read.reading (read : Read) : Reading Window Bytes :=
  match read.demand with
  | some demand => Window.pull demand
  | none => Window.readAll

/-- What may be asked of a reader. -/
inductive Use where
  | next
  | read (asked : Read)

inductive Answer where
  | record (key : Key) (number : Nat)
  | nothing
  | piece (bytes : Bytes)
  | failed (fault : ReadFault)

def Answer.bytes : Answer → Bytes
  | piece bytes => bytes
  | _ => []

def Answer.ofNext : EStateM.Result ReadFault Reader (Option (Key × Nat)) → Answer × Reader
  | .ok none after => (.nothing, after)
  | .ok (some (key, number)) after => (.record key number, after)
  | .error fault after => (.failed fault, after)

def Answer.ofRead : EStateM.Result ReadFault Reader Bytes → Answer × Reader
  | .ok bytes after => (.piece bytes, after)
  | .error fault after => (.failed fault, after)

def Read.run (read : Read) (reader : Reader) : Answer × Reader :=
  Answer.ofRead (onValue read.number read.reading reader)

/-- What a use brings, and the reader after it. -/
def Use.run : Use → Reader → Answer × Reader
  | next, reader => Answer.ofNext (next? reader)
  | read asked, reader => asked.run reader

/-- Uses one after the other, each with what it brings. -/
def exchanges : List Use → Reader → List (Use × Answer)
  | [], _ => []
  | use :: uses, reader => (use, (use.run reader).1) :: exchanges uses (use.run reader).2

def afterAll : List Use → Reader → Reader
  | [], reader => reader
  | use :: uses, reader => afterAll uses (use.run reader).2

/-- What a use brings of one value. -/
def Use.gain (number : Nat) : Use → Reader → Bytes
  | next, _ => []
  | read asked, reader => if asked.number = number then (asked.run reader).1.bytes else []

/-- All that uses bring of one value. -/
def brought (number : Nat) : List Use → Reader → Bytes
  | [], _ => []
  | use :: uses, reader => use.gain number reader ++ brought number uses (use.run reader).2

/-- A record may start at the reading position: these bytes are left. -/
structure AtRecord (archive : String) (bytes : Bytes) (reader : Reader) : Prop where
  isOpen : reader.isOpen = true
  path : reader.path = archive
  rest : reader.source.rest = bytes
  current : reader.current = none
  spent : ∀ (number : Nat) (value : Value), reader.values[number]? = some value → value.remaining = 0

/-- A value was handed out and read in part. Of its bytes some may be missing, because the archive
ends; otherwise the archive goes on behind it. -/
structure InValue (archive : String) (number length : Nat) (unread : Bytes) (missing : Nat)
    (bytes : Bytes) (reader : Reader) : Prop where
  isOpen : reader.isOpen = true
  path : reader.path = archive
  rest : reader.source.rest = unread ++ bytes
  ended : missing ≠ 0 → bytes = []
  current : reader.current = some number
  value : reader.values[number]? = some ⟨length, unread.length + missing⟩
  spent : ∀ (other : Nat) (value : Value), other ≠ number → reader.values[other]? = some value →
    value.remaining = 0

section Reads

variable {reader : Reader} {archive : String} {number length missing : Nat} {unread bytes : Bytes}

/-- A value that is put back as it was taken changes nothing. -/
theorem putBack_window (reader : Reader) (number : Nat) :
    reader.putBack number (reader.window number) = reader := by
  cases found : reader.values[number]? with
  | none =>
    have outside : reader.values.size ≤ number := by simpa using found
    simp [Reader.putBack, Reader.window, Array.setIfInBounds, Nat.not_lt.2 outside]
  | some value =>
    obtain ⟨inside, stored⟩ := Array.getElem?_eq_some_iff.1 found
    subst stored
    simp [Reader.putBack, Reader.window, Array.setIfInBounds, inside]

theorem window_of_spent {number : Nat}
    (spent : ∀ value, reader.values[number]? = some value → value.remaining = 0) :
    (reader.window number).value.remaining = 0 := by
  cases found : reader.values[number]? with
  | none => simp [Reader.window, found]
  | some value =>
    rw [Reader.window, found]
    exact spent value found

/-- A value that is read to its end gives nothing, and reading it changes nothing. -/
theorem read_of_spent (read : Read)
    (spent : ∀ value, reader.values[read.number]? = some value → value.remaining = 0) :
    read.run reader = (.piece [], reader) := by
  have finished := window_of_spent spent
  have nothing : read.reading (reader.window read.number) = .ok [] (reader.window read.number) := by
    unfold Read.reading
    cases read.demand with
    | some demand => exact if_pos finished
    | none =>
      simp only [Window.readAll]
      rw [Window.gatherRest, dif_pos finished]
      rfl
  simp only [Read.run, onValue, nothing, putBack_window, Answer.ofRead]

theorem AtRecord.read (h : AtRecord archive bytes reader) (read : Read) :
    read.run reader = (.piece [], reader) :=
  read_of_spent read (h.spent read.number)

theorem InValue.read_other (h : InValue archive number length unread missing bytes reader)
    {read : Read} (other : read.number ≠ number) : read.run reader = (.piece [], reader) :=
  read_of_spent read fun value => h.spent read.number value other

/-- Reads change the source and their own value only. -/
theorem InValue.putBack (h : InValue archive number length unread missing bytes reader)
    {window : Window} {unread' : Bytes} (rest : window.source.rest = unread' ++ bytes)
    (remaining : window.value.remaining = unread'.length + missing)
    (same : window.value.length = length) :
    InValue archive number length unread' missing bytes (reader.putBack number window) where
  isOpen := h.isOpen
  path := h.path
  rest := rest
  ended := h.ended
  current := h.current
  value := by
    have inBounds : number < reader.values.size := (Array.getElem?_eq_some_iff.1 h.value).1
    have whole : window.value = ⟨length, unread'.length + missing⟩ := by rw [← remaining, ← same]
    simp [Reader.putBack, inBounds, whole]
  spent := by
    intro other value apart found
    refine h.spent other value apart ?_
    simpa [Reader.putBack, Array.getElem?_setIfInBounds, Ne.symm apart] using found

theorem InValue.length_eq (h : InValue archive number length unread missing bytes reader) :
    (reader.window number).value.length = length := by
  simp [Reader.window, h.value]

theorem InValue.holds (h : InValue archive number length unread 0 bytes reader) :
    (reader.window number).Holds unread bytes where
  isOpen := h.isOpen
  rest := h.rest
  remaining := by simp [Reader.window, h.value]

theorem InValue.lacks (h : InValue archive number length unread missing bytes reader)
    (cut : missing ≠ 0) : (reader.window number).Lacks unread missing where
  isOpen := h.isOpen
  rest := by
    have rest := h.rest
    rwa [h.ended cut, List.append_nil] at rest
  remaining := by simp [Reader.window, h.value]
  missing := cut

/-- How a read of the current value ends, and what of the value it leaves unread. -/
inductive Serves (length : Nat) (unread : Bytes) (missing : Nat) (demand : Option Nat) :
    Answer → Bytes → Prop where
  | some {piece unread' : Bytes} (split : unread = piece ++ unread') :
      Serves length unread missing demand (.piece piece) unread'
  | emptyRead (empty : demand = some 0) (unfinished : unread.length + missing ≠ 0) :
      Serves length unread missing demand
        (.failed (.valueEnded (unread.length + missing) length)) unread
  | cutShort (cut : missing ≠ 0) :
      Serves length unread missing demand (.failed (.valueEnded missing length)) []

theorem Read.run_of_ok {read : Read} {piece : Bytes} {window : Window}
    (served : read.reading (reader.window read.number) = .ok piece window) :
    read.run reader = (.piece piece, reader.putBack read.number window) := by
  simp only [Read.run, onValue, served, Answer.ofRead]

theorem Read.run_of_error {read : Read} {fault : ReadFault} {window : Window}
    (refused : read.reading (reader.window read.number) = .error fault window) :
    read.run reader = (.failed fault, reader.putBack read.number window) := by
  simp only [Read.run, onValue, refused, Answer.ofRead]

theorem InValue.readAll (h : InValue archive number length unread 0 bytes reader) :
    ∃ after, (⟨number, none⟩ : Read).run reader = (.piece unread, after) ∧
      InValue archive number length [] 0 bytes after := by
  obtain ⟨window, served, holds, same⟩ := h.holds.readAll
  refine ⟨_, Read.run_of_ok served, h.putBack holds.rest holds.remaining ?_⟩
  exact same.trans h.length_eq

theorem InValue.readAll_cut (h : InValue archive number length unread missing bytes reader)
    (cut : missing ≠ 0) : ∃ after,
    (⟨number, none⟩ : Read).run reader = (.failed (.valueEnded missing length), after) ∧
      InValue archive number length [] missing bytes after := by
  obtain ⟨window, refused, lacks, same⟩ := (h.lacks cut).readAll
  have length_eq := h.length_eq
  rw [length_eq] at refused same
  refine ⟨_, Read.run_of_error refused, h.putBack ?_ lacks.remaining same⟩
  rw [lacks.rest, h.ended cut]
  rfl

/-- A read of a value that is cut off brings some of it as long as there is any, then it fails. -/
theorem InValue.pull_cut (h : InValue archive number length unread missing bytes reader)
    (cut : missing ≠ 0) {demand : Nat} (positive : 0 < demand) :
    (∃ after, unread ≠ [] ∧
      (⟨number, some demand⟩ : Read).run reader = (.piece (unread.take demand), after) ∧
      InValue archive number length (unread.drop demand) missing bytes after) ∨
    (∃ after, unread = [] ∧
      (⟨number, some demand⟩ : Read).run reader = (.failed (.valueEnded missing length), after) ∧
      InValue archive number length [] missing bytes after) := by
  have lacks := h.lacks cut
  by_cases none_left : unread = []
  · subst none_left
    obtain ⟨window, refused, lacks', same⟩ := lacks.pull_end demand
    rw [h.length_eq] at refused same
    refine .inr ⟨_, rfl, Read.run_of_error refused, h.putBack ?_ lacks'.remaining same⟩
    rw [lacks'.rest, h.ended cut]
    rfl
  · obtain ⟨window, served, lacks', same⟩ := lacks.pull positive none_left
    refine .inl ⟨_, none_left, Read.run_of_ok served, h.putBack ?_ lacks'.remaining ?_⟩
    · rw [lacks'.rest, h.ended cut, List.append_nil]
    · exact same.trans h.length_eq

theorem InValue.pull (h : InValue archive number length unread 0 bytes reader) {demand : Nat}
    (positive : 0 < demand) : ∃ after,
    (⟨number, some demand⟩ : Read).run reader = (.piece (unread.take demand), after) ∧
      InValue archive number length (unread.drop demand) 0 bytes after := by
  obtain ⟨window, served, holds, same⟩ := h.holds.pull positive
  exact ⟨_, Read.run_of_ok served,
    h.putBack holds.rest holds.remaining (same.trans h.length_eq)⟩

theorem InValue.pull_zero (h : InValue archive number length unread missing bytes reader)
    (unfinished : unread.length + missing ≠ 0) : ∃ after,
    (⟨number, some 0⟩ : Read).run reader =
        (.failed (.valueEnded (unread.length + missing) length), after) ∧
      InValue archive number length unread missing bytes after := by
  have remaining : (reader.window number).value.remaining = unread.length + missing := by
    simp [Reader.window, h.value]
  obtain ⟨source, refused, rest⟩ :=
    Window.pull_zero (show (reader.window number).isOpen = true from h.isOpen)
      (by rw [remaining]; exact unfinished)
  rw [remaining, h.length_eq] at refused
  exact ⟨_, Read.run_of_error refused, h.putBack (rest.trans h.rest) remaining h.length_eq⟩

/-- Every read of the current value brings what comes next of it, or tells that it is cut short. -/
theorem InValue.read (h : InValue archive number length unread missing bytes reader)
    (demand : Option Nat) : ∃ unread',
    Serves length unread missing demand ((⟨number, demand⟩ : Read).run reader).1 unread' ∧
      InValue archive number length unread' missing bytes ((⟨number, demand⟩ : Read).run reader).2 := by
  by_cases cut : missing = 0
  · subst cut
    cases demand with
    | none =>
      obtain ⟨after, served, stands⟩ := h.readAll
      rw [served]
      exact ⟨[], .some (List.append_nil unread).symm, stands⟩
    | some demand =>
      by_cases positive : 0 < demand
      · obtain ⟨after, served, stands⟩ := h.pull positive
        rw [served]
        exact ⟨_, .some (List.take_append_drop demand unread).symm, stands⟩
      · obtain rfl : demand = 0 := by omega
        by_cases unfinished : unread.length + 0 = 0
        · rw [read_of_spent]
          · exact ⟨unread, .some rfl, h⟩
          · intro value found
            rw [h.value] at found
            rw [← Option.some.inj found]
            exact unfinished
        · obtain ⟨after, refused, stands⟩ := h.pull_zero unfinished
          rw [refused]
          exact ⟨unread, .emptyRead rfl unfinished, stands⟩
  · cases demand with
    | none =>
      obtain ⟨after, refused, stands⟩ := h.readAll_cut cut
      rw [refused]
      exact ⟨[], .cutShort cut, stands⟩
    | some demand =>
      by_cases positive : 0 < demand
      · rcases h.pull_cut cut positive with ⟨after, -, served, stands⟩ | ⟨after, -, refused, stands⟩
        · rw [served]
          exact ⟨_, .some (List.take_append_drop demand unread).symm, stands⟩
        · rw [refused]
          exact ⟨[], .cutShort cut, stands⟩
      · obtain rfl : demand = 0 := by omega
        have unfinished : unread.length + missing ≠ 0 := by omega
        obtain ⟨after, refused, stands⟩ := h.pull_zero unfinished
        rw [refused]
        exact ⟨unread, .emptyRead rfl unfinished, stands⟩

end Reads

end Reader

end ContainerLogs.Archive
