import ContainerLogs.Proofs.Archive.Dumping
import ContainerLogs.Proofs.Archive.Parsing
import ContainerLogs.Proofs.Archive.Recording
import Mathlib.Logic.Function.Basic

/-!
The values of an archive side by side. They share one file and one reading position, and may be read
and rendered in any order, also after the reader has gone on, and as far as their bytes can be
rendered at all. What is returned of each is the front of its own bytes; what was not returned of it
when the reader went on was skipped, and nothing of the records behind it.
-/
namespace ContainerLogs.Archive

namespace Reader

/-- What may be asked of a reader and of the values that it has handed out: the next record, a read
of a value, for some bytes or for all that are left, or the rendering of a value, which reads as far
as the value can be rendered. -/
inductive Turn where
  | next
  | read (asked : Read) (asks : asked.demand ≠ some 0)
  | render (number : Nat)

/-- A reader, and what was returned and what was skipped of each value. -/
structure Watched where
  reader : Reader
  returned : Nat → Bytes := fun _ => []
  drained : Nat → Bytes := fun _ => []

namespace Watched

def give (number : Nat) (bytes : Bytes) (watched : Watched) : Watched :=
  { watched with
    returned := Function.update watched.returned number (watched.returned number ++ bytes) }

private theorem give_nil (number : Nat) (watched : Watched) : watched.give number [] = watched := by
  rw [give, List.append_nil, Function.update_eq_self]

/-- Notes what going on skips of the current value. -/
def leave (watched : Watched) : Watched :=
  match watched.reader.current with
  | none => watched
  | some number =>
      match Window.gatherRest Window.skippedBytes [] (watched.reader.window number) with
      | .error _ _ => watched
      | .ok bytes _ =>
          { watched with
            drained := Function.update watched.drained number (watched.drained number ++ bytes) }

end Watched

/-- What a turn makes of a reader; what the rendering of a value returns is what it was given. -/
def Turn.run : Turn → Watched → Watched
  | next, watched => { watched.leave with reader := (Use.next.run watched.reader).2 }
  | read asked _, watched =>
      { watched.give asked.number (asked.run watched.reader).1.bytes with
        reader := (asked.run watched.reader).2 }
  | render number, watched =>
      let window := watched.reader.window number
      { watched.give number (Archive.render "" ({ feed := window } : Recorded Window)).feed.given with
        reader := watched.reader.putBack number (Archive.render "" window).feed }

/-- Takes turns one after the other. -/
def watch (turns : List Turn) (watched : Watched) : Watched :=
  turns.foldl (fun watched turn => turn.run watched) watched

variable {archive : String} {bytes : Bytes} {reader : Reader} {watched : Watched}
  {handed rest records : List (String × Bytes)}

/-- What going on to the next record does, by the records that are still to come. -/
inductive GoesOn (archive : String) (reader : Reader) : List (String × Bytes) → Prop where
  | ended {after : Reader} (next : next? reader = .ok none after)
      (stands : AtRecord archive [] after) (same : after.values = reader.values) :
      GoesOn archive reader []
  | record {name : String} {value behind : Bytes} {records : List (String × Bytes)} {after : Reader}
      (next : next? reader = .ok (some (⟨some name⟩, reader.values.size)) after)
      (stands : InValue archive reader.values.size value.length value 0 behind after)
      (added : after.values = reader.values.push ⟨value.length, value.length⟩)
      (parsed : Parsed archive behind records .clean) :
      GoesOn archive reader ((name, value) :: containers records)

theorem AtRecord.goesOn (parsed : Parsed archive bytes records .clean)
    (h : AtRecord archive bytes reader) : GoesOn archive reader (containers records) := by
  generalize ending : Tail.clean = tail at parsed
  induction parsed generalizing reader with
  | clean =>
    obtain ⟨after, next, stands, same⟩ := h.next?_at_end
    exact .ended next stands same
  | cut => cases ending
  | broken => cases ending
  | @record name value bytes records tail fit others ih =>
    subst ending
    have inRange := Header.inRange_of_fits fit
    rw [Header.recordBytes_eq, List.append_assoc] at h
    cases reserved : isReserved name with
    | true =>
      obtain ⟨beyond, stands, same, values⟩ := h.next?_of_reserved inRange reserved rfl
      have skipped : containers ((name, value) :: records) = containers records := by
        simp [containers, reserved]
      rw [skipped]
      -- Behind a reserved record the reader goes on as it would have from there.
      generalize containers records = rest at ih
      cases ih stands rfl with
      | ended next stands' same' => exact .ended (same.trans next) stands' (same'.trans values)
      | record next stands' added parsed =>
        rw [values] at next stands' added
        exact .record (same.trans next) stands' added parsed
    | false =>
      obtain ⟨after, next, stands, added⟩ := h.next?_of_container inRange reserved
        (show value.length = value.length + 0 from rfl) (absurd rfl)
      have kept : containers ((name, value) :: records) = (name, value) :: containers records := by
        simp [containers, reserved]
      rw [kept]
      exact .record next stands added others

/-- Of values that the reader has left behind, everything was returned or skipped. -/
def Settled (handed : List (String × Bytes)) (watched : Watched) : Prop :=
  ∀ number record, handed[number]? = some record →
    watched.returned number ++ watched.drained number = record.2 ∧
      watched.reader.values[number]? = some ⟨record.2.length, 0⟩

/-- These are the records handed out, and the rest of them is still to come. -/
structure Course (archive : String) (behind : Bytes) (handed rest : List (String × Bytes))
    (watched : Watched) : Prop where
  parsed : ∃ records, Parsed archive behind records .clean ∧ containers records = rest
  size : watched.reader.values.size = handed.length
  untouched : ∀ number, handed.length ≤ number →
    watched.returned number = [] ∧ watched.drained number = []

/-- The books on a reader: it stands at a record, with all values settled, or in the last one handed
out, of which some is left. -/
inductive Books (archive : String) :
    List (String × Bytes) → List (String × Bytes) → Watched → Prop where
  | between {behind : Bytes} {handed rest : List (String × Bytes)} {watched : Watched}
      (course : Course archive behind handed rest watched)
      (stands : AtRecord archive behind watched.reader) (settled : Settled handed watched) :
      Books archive handed rest watched
  | within {behind unread : Bytes} {earlier rest : List (String × Bytes)} {record : String × Bytes}
      {watched : Watched} (course : Course archive behind (earlier ++ [record]) rest watched)
      (stands : InValue archive earlier.length record.2.length unread 0 behind watched.reader)
      (settled : Settled earlier watched)
      (account : watched.returned earlier.length ++ unread = record.2)
      (undrained : watched.drained earlier.length = []) :
      Books archive (earlier ++ [record]) rest watched

private theorem values_putBack_ne {number other : Nat} (apart : other ≠ number) (window : Window) :
    (reader.putBack number window).values[other]? = reader.values[other]? := by
  simp [Reader.putBack, Ne.symm apart]

private theorem Read.exists_putBack (read : Read) (reader : Reader) :
    ∃ window, (read.run reader).2 = reader.putBack read.number window := by
  cases served : read.reading (reader.window read.number) with
  | ok piece window =>
    rw [Read.run_of_ok served]
    exact ⟨window, rfl⟩
  | error fault window =>
    rw [Read.run_of_error served]
    exact ⟨window, rfl⟩

/-- What stands in a list with one more at its end is the last or was there before. -/
private theorem getElem?_concat_eq_some {α : Type} {front : List α} {last a : α} {number : Nat}
    (found : (front ++ [last])[number]? = some a) :
    number = front.length ∧ last = a ∨ front[number]? = some a := by
  by_cases atEnd : number = front.length
  · subst atEnd
    rw [List.getElem?_concat_length] at found
    exact .inl ⟨rfl, Option.some.inj found⟩
  · have inside : number < front.length := by
      have bound := (List.getElem?_eq_some_iff.1 found).1
      rw [List.length_append, List.length_singleton] at bound
      omega
    rw [List.getElem?_append_left inside] at found
    exact .inr found

/-- Reading or skipping the last of the values handed out leaves the others as they are. -/
private theorem Course.of_same {behind : Bytes} {earlier : List (String × Bytes)}
    {record : String × Bytes} {watched' : Watched}
    (h : Course archive behind (earlier ++ [record]) rest watched)
    (size : watched'.reader.values.size = watched.reader.values.size)
    (same : ∀ number, number ≠ earlier.length → watched'.returned number = watched.returned number ∧
        watched'.drained number = watched.drained number) :
    Course archive behind (earlier ++ [record]) rest watched' := by
  refine ⟨h.parsed, size.trans h.size, ?_⟩
  intro number outside
  have apart : number ≠ earlier.length := by
    rw [List.length_append, List.length_singleton] at outside
    omega
  obtain ⟨returned, drained⟩ := same number apart
  rw [returned, drained]
  exact h.untouched number outside

/-- What is settled stays so while other values are read or handed out. -/
private theorem Settled.of_same {watched' : Watched} (h : Settled handed watched)
    (same : ∀ number, number < handed.length → watched'.returned number = watched.returned number ∧
      watched'.drained number = watched.drained number ∧
      watched'.reader.values[number]? = watched.reader.values[number]?) :
    Settled handed watched' := by
  intro number record found
  have inside : number < handed.length := (List.getElem?_eq_some_iff.1 found).1
  obtain ⟨returned, drained, values⟩ := same number inside
  rw [returned, drained, values]
  exact h number record found

private theorem Settled.concat {record : String × Bytes} (h : Settled handed watched)
    (account : watched.returned handed.length ++ watched.drained handed.length = record.2)
    (value : watched.reader.values[handed.length]? = some ⟨record.2.length, 0⟩) :
    Settled (handed ++ [record]) watched := by
  intro number other found
  rcases getElem?_concat_eq_some found with ⟨rfl, rfl⟩ | earlier
  · exact ⟨account, value⟩
  · exact h number other earlier

private theorem Watched.leave_of_none (h : watched.reader.current = none) :
    watched.leave = watched := by
  rw [leave, h]

private theorem InValue.leave_eq {number length : Nat} {unread : Bytes}
    (h : InValue archive number length unread 0 bytes watched.reader) : watched.leave =
      { watched with
        drained := Function.update watched.drained number (watched.drained number ++ unread) } := by
  obtain ⟨window, gathered, -⟩ := h.holds.gatherRest (show 0 < Window.skippedBytes by decide) []
  rw [Watched.leave, h.current]
  simp only [gathered]
  rfl

/-- Before it goes on, a reader settles its current value, and then stands at a record. -/
private theorem Books.settle (h : Books archive handed rest watched) : ∃ behind watched',
    Course archive behind handed rest watched' ∧ AtRecord archive behind watched'.reader ∧
      Settled handed watched' ∧ Turn.next.run watched = Turn.next.run watched' ∧
      next? watched.reader = next? watched'.reader := by
  cases h with
  | @between behind handed rest watched course stands settled =>
    exact ⟨behind, watched, course, stands, settled, rfl, rfl⟩
  | @within behind unread earlier rest record watched course stands settled account undrained =>
    obtain ⟨beyond, stands', same, values⟩ := stands.next?_eq
    refine ⟨behind, { watched.leave with reader := beyond }, ?_, stands', ?_, ?_, same⟩
    · rw [stands.leave_eq]
      apply course.of_same
      · rw [values, Array.size_setIfInBounds]
      · intro number apart
        exact ⟨rfl, Function.update_of_ne apart _ _⟩
    · rw [stands.leave_eq]
      apply Settled.concat
      · apply settled.of_same
        intro number inside
        have apart : number ≠ earlier.length := Nat.ne_of_lt inside
        refine ⟨rfl, Function.update_of_ne apart _ _, ?_⟩
        simp [values, Ne.symm apart]
      · simp only [Function.update_self, undrained, List.nil_append]
        exact account
      · have inside : earlier.length < watched.reader.values.size := by
          rw [course.size, List.length_append, List.length_singleton]
          omega
        simp [values, inside]
    · have left : ({ watched.leave with reader := beyond } : Watched).leave =
          { watched.leave with reader := beyond } := Watched.leave_of_none stands'.current
      simp only [Turn.run, left, Use.run, same]

private theorem Books.next (h : Books archive handed rest watched) : ∃ handed' rest',
    handed' ++ rest' = handed ++ rest ∧ Books archive handed' rest' (Turn.next.run watched) := by
  obtain ⟨behind, watched', course, stands, settled, same, -⟩ := h.settle
  obtain ⟨records, parsed, rfl⟩ := course.parsed
  have goesOn := stands.goesOn parsed
  generalize containers records = rest at course goesOn
  rw [same, Turn.run, Watched.leave_of_none stands.current]
  cases goesOn with
  | @ended after next stands' values =>
    simp only [Use.run, next, Answer.ofNext]
    refine ⟨handed, [], rfl, .between ?_ stands' ?_⟩
    · exact ⟨⟨[], .clean, rfl⟩, values.symm ▸ course.size, course.untouched⟩
    · apply settled.of_same
      intro number inside
      exact ⟨rfl, rfl, by simp only [values]⟩
  | @record name value behind records after next stands' values parsed =>
    simp only [Use.run, next, Answer.ofNext]
    have size := course.size
    obtain ⟨unreturned, undrained⟩ := course.untouched handed.length (Nat.le_refl _)
    rw [size] at stands'
    have course' : Course archive behind (handed ++ [(name, value)]) (containers records)
        { watched' with reader := after } := by
      refine ⟨⟨records, parsed, rfl⟩, ?_, ?_⟩
      · simp [values, size]
      · intro number outside
        rw [List.length_append] at outside
        exact course.untouched number (Nat.le_of_add_right_le outside)
    have settled' : Settled handed { watched' with reader := after } := by
      apply settled.of_same
      intro number inside
      refine ⟨rfl, rfl, ?_⟩
      simp only [values]
      rw [Array.getElem?_push, if_neg (by omega)]
    have account : watched'.returned handed.length ++ value = value := by
      rw [unreturned, List.nil_append]
    refine ⟨handed ++ [(name, value)], containers records, ?_, ?_⟩
    · rw [List.append_assoc, List.singleton_append]
    · exact .within course' stands' settled' account undrained

/-- Taking from the current value what comes next of it moves that from what is left to what was
returned. -/
private theorem Books.taken {behind given unread : Bytes} {earlier : List (String × Bytes)}
    {record : String × Bytes} {window : Window}
    (course : Course archive behind (earlier ++ [record]) rest watched)
    (settled : Settled earlier watched)
    (account : watched.returned earlier.length ++ (given ++ unread) = record.2)
    (undrained : watched.drained earlier.length = [])
    (stands : InValue archive earlier.length record.2.length unread 0 behind
      (watched.reader.putBack earlier.length window)) :
    Books archive (earlier ++ [record]) rest
      { watched.give earlier.length given with
        reader := watched.reader.putBack earlier.length window } := by
  refine .within ?_ stands ?_ ?_ undrained
  · apply course.of_same Array.size_setIfInBounds
    intro number apart
    exact ⟨Function.update_of_ne apart _ _, rfl⟩
  · apply settled.of_same
    intro number inside
    have apart : number ≠ earlier.length := Nat.ne_of_lt inside
    exact ⟨Function.update_of_ne apart _ _, rfl, values_putBack_ne apart window⟩
  · simp only [Watched.give, Function.update_self, List.append_assoc]
    exact account

/-- Reads of a value of which nothing is left give nothing and change nothing. -/
private theorem Turn.read_of_spent {asked : Read} {asks : asked.demand ≠ some 0}
    (spent : ∀ value, watched.reader.values[asked.number]? = some value → value.remaining = 0) :
    (Turn.read asked asks).run watched = watched := by
  simp only [run, Reader.read_of_spent asked spent, Answer.bytes, Watched.give_nil]

/-- So does its rendering. -/
private theorem Turn.render_of_spent {number : Nat}
    (spent : ∀ value, watched.reader.values[number]? = some value → value.remaining = 0) :
    (Turn.render number).run watched = watched := by
  let window := watched.reader.window number
  have finished : window.value.remaining = 0 := window_of_spent spent
  have willing : Feed.Willing fun feed : Window => feed = window := by
    rintro feed demand rfl positive
    exact ⟨[], window, if_pos finished, rfl⟩
  have nothing : Feed.left window = [] := by
    change window.left = []
    rw [Window.left, finished, List.take_zero, ite_self]
  obtain ⟨account, same⟩ := given_of_render willing window rfl ""
  rw [same, nothing, List.append_nil] at account
  simp only [run]
  rw [account, same, putBack_window, Watched.give_nil]

private theorem Books.read (h : Books archive handed rest watched) (asked : Read)
    (asks : asked.demand ≠ some 0) :
    Books archive handed rest ((Turn.read asked asks).run watched) := by
  cases h with
  | between course stands settled =>
    rw [Turn.read_of_spent (stands.spent asked.number)]
    exact .between course stands settled
  | @within behind unread earlier rest record watched course stands settled account undrained =>
    by_cases own : asked.number = earlier.length
    · obtain ⟨unread', served, stands'⟩ := stands.read asked.demand
      rw [← own] at served stands'
      obtain ⟨window, same⟩ := asked.exists_putBack watched.reader
      simp only [Turn.run]
      change Serves _ _ _ _ (asked.run watched.reader).1 _ at served
      change InValue _ _ _ _ _ _ (asked.run watched.reader).2 at stands'
      rw [same] at stands' ⊢
      generalize (asked.run watched.reader).1 = answer at served
      rw [own] at stands' ⊢
      cases served with
      | some split =>
        rw [split] at account
        exact Books.taken course settled account undrained stands'
      | emptyRead empty => exact absurd empty asks
      | cutShort cut => exact absurd rfl cut
    · rw [Turn.read_of_spent fun value => stands.spent asked.number value own]
      exact .within course stands settled account undrained

private theorem Books.render (h : Books archive handed rest watched) (number : Nat) :
    Books archive handed rest ((Turn.render number).run watched) := by
  cases h with
  | between course stands settled =>
    rw [Turn.render_of_spent (stands.spent number)]
    exact .between course stands settled
  | @within behind unread earlier rest record watched course stands settled account undrained =>
    by_cases own : number = earlier.length
    · subst own
      let window := watched.reader.window earlier.length
      obtain ⟨given, same, unread', holds⟩ :=
        given_of_render (Window.willing window.value.length behind) window
          ⟨rfl, _, stands.holds⟩ ""
      rw [holds.left_eq, stands.holds.left_eq] at given
      rw [← given] at account
      have stands' := stands.putBack holds.rest holds.remaining (same.trans stands.length_eq)
      exact Books.taken course settled account undrained stands'
    · rw [Turn.render_of_spent fun value => stands.spent number value own]
      exact .within course stands settled account undrained

/-- Whatever turn is taken, the books stay right. -/
private theorem Books.run (h : Books archive handed rest watched) (turn : Turn) : ∃ handed' rest',
    handed' ++ rest' = handed ++ rest ∧ Books archive handed' rest' (turn.run watched) := by
  cases turn with
  | next => exact h.next
  | read asked asks => exact ⟨handed, rest, rfl, h.read asked asks⟩
  | render number => exact ⟨handed, rest, rfl, h.render number⟩

private theorem Books.watch (h : Books archive handed rest watched) (turns : List Turn) :
    ∃ handed' rest', handed' ++ rest' = handed ++ rest ∧
      Books archive handed' rest' (watch turns watched) := by
  induction turns generalizing handed rest watched with
  | nil => exact ⟨handed, rest, rfl, h⟩
  | cons turn turns ih =>
    obtain ⟨handed', rest', same, books⟩ := h.run turn
    obtain ⟨handed'', rest'', same', books'⟩ := ih books
    exact ⟨handed'', rest'', same'.trans same, books'⟩

/-- No more comes of a value: reads of it give nothing, nor does its rendering, and nothing changes. -/
def Stale (number : Nat) (watched : Watched) : Prop :=
  (∀ demand, (⟨number, demand⟩ : Read).run watched.reader = (.piece [], watched.reader)) ∧
    (Turn.render number).run watched = watched

/-- Going on hands out the first of the records still to come, with all of its value, or finds the
end if there are none. -/
def DeliversNext (number : Nat) (reader : Reader) : List (String × Bytes) → Prop
  | [] => ∃ after, next? reader = .ok none after
  | (name, value) :: _ => ∃ after ended,
      next? reader = .ok (some (⟨some name⟩, number)) after ∧
      after.values[number]? = some ⟨value.length, value.length⟩ ∧
      (⟨number, none⟩ : Read).run after = (.piece value, ended)

/-- No value has anything of another. What was returned of a value, what was skipped of it and what is
left make it up, in this order; only of the last one handed out may something be left that was not
skipped, and all others are stale. -/
structure KeptApart (handed rest : List (String × Bytes)) (watched : Watched) : Prop where
  size : watched.reader.values.size = handed.length
  account : ∀ number record, handed[number]? = some record → ∃ unread,
    watched.returned number ++ watched.drained number ++ unread = record.2 ∧
      watched.reader.values[number]? = some ⟨record.2.length, unread.length⟩
  current : ∀ number, watched.reader.current = some number →
    number + 1 = handed.length ∧ watched.drained number = []
  stale : ∀ number, watched.reader.current ≠ some number → Stale number watched
  next : DeliversNext handed.length watched.reader rest

private theorem stale_of_spent {number : Nat}
    (spent : ∀ value, watched.reader.values[number]? = some value → value.remaining = 0) :
    Stale number watched :=
  ⟨fun demand => Reader.read_of_spent ⟨number, demand⟩ spent, Turn.render_of_spent spent⟩

private theorem Settled.account (h : Settled handed watched) {number : Nat}
    {record : String × Bytes} (found : handed[number]? = some record) : ∃ unread,
    watched.returned number ++ watched.drained number ++ unread = record.2 ∧
      watched.reader.values[number]? = some ⟨record.2.length, unread.length⟩ := by
  obtain ⟨whole, value⟩ := h number record found
  refine ⟨[], ?_, value⟩
  rw [List.append_nil]
  exact whole

private theorem Books.deliversNext (h : Books archive handed rest watched) :
    DeliversNext handed.length watched.reader rest := by
  obtain ⟨behind, watched', course, stands, -, -, same⟩ := h.settle
  obtain ⟨records, parsed, rfl⟩ := course.parsed
  have goesOn := stands.goesOn parsed
  rw [← course.size]
  generalize containers records = rest at goesOn
  cases goesOn with
  | ended next => exact ⟨_, same.trans next⟩
  | @record name value behind records after next stands' added =>
    obtain ⟨ended, served, -⟩ := stands'.readAll
    exact ⟨after, ended, same.trans next, stands'.value, served⟩

private theorem Books.keptApart (h : Books archive handed rest watched) :
    KeptApart handed rest watched := by
  have next := h.deliversNext
  cases h with
  | between course stands settled =>
    refine ⟨course.size, ?_, ?_, ?_, next⟩
    · intro number record found
      exact settled.account found
    · intro number current
      rw [stands.current] at current
      cases current
    · intro number _
      exact stale_of_spent (stands.spent number)
  | @within behind unread earlier rest record watched course stands settled account undrained =>
    refine ⟨course.size, ?_, ?_, ?_, next⟩
    · intro number other found
      rcases getElem?_concat_eq_some found with ⟨rfl, rfl⟩ | found
      · refine ⟨unread, ?_, stands.value⟩
        rw [undrained, List.append_nil]
        exact account
      · exact settled.account found
    · intro number current
      rw [stands.current] at current
      obtain rfl := Option.some.inj current
      exact ⟨by rw [List.length_append, List.length_singleton], undrained⟩
    · intro number notCurrent
      apply stale_of_spent
      intro value found
      refine stands.spent number value ?_ found
      rintro rfl
      exact notCurrent stands.current

/-- Whatever bytes the values of a well-framed archive consist of, and in whatever order the reader
goes on and the values handed out so far are read and rendered, none of them ever has anything of
another, and the next record is delivered whole. -/
theorem values_kept_apart (parsed : Parsed archive bytes records .clean)
    (opened : ofBytes archive bytes = .ok reader) (turns : List Turn) : ∃ handed rest,
    containers records = handed ++ rest ∧ KeptApart handed rest (watch turns { reader }) := by
  have opening : Opening archive records .clean _ (ofBytes archive bytes) :=
    opening_of_parsed parsed rfl rfl
  rw [opened] at opening
  cases opening with
  | @opened source version owner fine others =>
    have stands : AtRecord archive source.rest
        { path := archive, source, version, owner } := ⟨rfl, rfl, rfl, rfl, by simp⟩
    have course : Course archive source.rest [] (containers records)
        { reader := { path := archive, source, version, owner } } :=
      ⟨⟨_, others, containers_body records⟩, rfl, fun _ _ => ⟨rfl, rfl⟩⟩
    have books : Books archive [] (containers records)
        { reader := { path := archive, source, version, owner } } :=
      .between course stands nofun
    obtain ⟨handed, rest, same, books'⟩ := books.watch turns
    exact ⟨handed, rest, same.symm, books'.keptApart⟩

/-- A first value that is no sequence of items, a reserved record behind it, and another value, which
is rendered and read while the first one is asked for again. -/
theorem kept_apart_in_turns :
    let records := [(versionName, Wire.int formatVersion), ("c", [0, 0, 0, 9, 7, 7]),
      (ownerName, [97]), ("d", [255, 255, 255, 255, 0, 0, 0, 1, 33])]
    ∃ reader, ofBytes "a.log" (recordsBytes (named records)) = .ok reader ∧
      ∃ handed rest, containers records = handed ++ rest ∧
        KeptApart handed rest (watch
          [.next, .read ⟨0, some 1⟩ (by decide), .render 0, .next, .read ⟨0, none⟩ (by decide),
            .read ⟨1, some 2⟩ (by decide), .render 0, .render 1, .next] { reader }) := by
  intro records
  have parsed : Parsed "a.log" (recordsBytes (named records)) records .clean := by
    apply Parsed.of_records
    unfold Session.Fits
    decide
  obtain ⟨reader, opened⟩ := exists_reader_of_parsed parsed (by decide)
  exact ⟨reader, opened, values_kept_apart parsed opened _⟩

end Reader

end ContainerLogs.Archive
