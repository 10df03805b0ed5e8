import ContainerLogs.Proofs.Archive.Streams

/-!
The readable form of one container's records. A record of another container is stepped over by the
length in its header, so nothing that its value consists of shows, and each wanted record is shown
from its own bytes, as it would be among all others.
-/
namespace ContainerLogs.Archive

/-- What a dump wrote, and how many records it has or what stopped it. -/
def Dump.outcome (dump : Dump) : String × Except ReadFault Nat :=
  (dump.out,
    match dump.fault with
    | some fault => .error fault
    | none => .ok dump.count)

/-- Records in blocks one after the other, up to what can be shown of the first malformed one, and
how many there are or what is wrong with that one. -/
def display : List (String × Bytes) → String × Except ReadFault Nat
  | [] => ("", .ok 0)
  | (name, value) :: records =>
      match (render "" value).fault with
      | some fault => (Dump.header ⟨some name⟩ ++ (render "" value).out, .error fault)
      | none =>
          (recordText name (render "" value).out ++ (display records).1,
            (display records).2.map (· + 1))

/-- How records are displayed, by their items: each that is a sequence of whole items in a block of its
own, up to the first malformed one, of which the whole items are shown and what can be shown of the
rest. -/
inductive Displays : List (String × Bytes) → String × Except ReadFault Nat → Prop where
  | done : Displays [] ("", .ok 0)
  | whole {name text : String} {value : Bytes} {items : List RawItem} {result : Except ReadFault Nat}
      {records : List (String × Bytes)} (itemized : Itemized value items .clean)
      (others : Displays records (text, result)) :
      Displays ((name, value) :: records)
        (recordText name (String.join (items.map RawItem.text)) ++ text, result.map (· + 1))
  | malformed {name : String} {value : Bytes} {items : List RawItem} {remnant : Remnant}
      {fault : ReadFault} {records : List (String × Bytes)} (itemized : Itemized value items remnant)
      (told : remnant.fault? = some fault) :
      Displays ((name, value) :: records)
        (headText name ++ (String.join (items.map RawItem.text) ++ remnant.text), .error fault)

/-- The display of records behind so many others, which are shown already. -/
def displayAfter (out : String) (count : Nat) (records : List (String × Bytes)) :
    String × Except ReadFault Nat :=
  (out ++ (display records).1, (display records).2.map (count + ·))

/-- The records that speak of one container. -/
def recordsOf (name : String) (records : List (String × Bytes)) : List (String × Bytes) :=
  (containers records).filter fun record => record.1 = name

section Display

variable {name : String} {value : Bytes} {records : List (String × Bytes)} {fault : ReadFault}

private theorem displayAfter_nil (out : String) (count : Nat) :
    displayAfter out count [] = (out, .ok count) := by
  simp [displayAfter, display, Except.map]

private theorem displayAfter_start (records : List (String × Bytes)) :
    displayAfter "" 0 records = display records := by
  unfold displayAfter
  cases shown : (display records).2 <;> simp [← shown, Except.map]

private theorem displayAfter_of_malformed (malformed : (render "" value).fault = some fault)
    (out : String) (count : Nat) (records : List (String × Bytes)) :
    displayAfter out count ((name, value) :: records) =
      (out ++ Dump.header ⟨some name⟩ ++ (render "" value).out, .error fault) := by
  simp only [displayAfter, display, malformed, Except.map, String.append_assoc]

private theorem displayAfter_of_whole (whole : (render "" value).fault = none) (out : String)
    (count : Nat) (records : List (String × Bytes)) :
    displayAfter out count ((name, value) :: records) =
      displayAfter (out ++ recordText name (render "" value).out) (count + 1) records := by
  simp only [displayAfter, display, whole, String.append_assoc]
  congr 1
  cases (display records).2 with
  | error fault => rfl
  | ok others =>
    simp only [Except.map]
    congr 1
    omega

/-- Records are displayed by their items. -/
private theorem displays_display (records : List (String × Bytes)) :
    Displays records (display records) := by
  induction records with
  | nil => exact .done
  | cons record records ih =>
    obtain ⟨name, value⟩ := record
    obtain ⟨items, remnant, itemized⟩ := exists_itemized value
    obtain ⟨told, shown⟩ := render_of_bytes itemized
    cases remnant with
    | clean =>
      have none_left : (render "" value).fault = none := told
      rw [display, none_left, shown, Remnant.text, String.append_empty]
      exact .whole itemized ih
    | cut | flawed =>
      rw [display, told, shown, header_eq]
      exact .malformed itemized rfl

/-- There is one way to display records. -/
private theorem Displays.eq_display {records : List (String × Bytes)}
    {shown : String × Except ReadFault Nat} (h : Displays records shown) :
    shown = display records := by
  induction h with
  | done => rfl
  | whole itemized others ih =>
    obtain ⟨told, shown⟩ := render_of_bytes itemized
    rw [display, told, shown, ← ih, Remnant.text, String.append_empty]
    rfl
  | malformed itemized told =>
    obtain ⟨told', shown⟩ := render_of_bytes itemized
    rw [display, told', told, shown, header_eq]

private theorem display_isCorrupt (failed : (display records).2 = .error fault) :
    fault.isCorrupt = true := by
  induction records with
  | nil => cases failed
  | cons record records ih =>
    obtain ⟨name, value⟩ := record
    cases shown : (render "" value).fault with
    | some fault' =>
      simp only [display, shown] at failed
      cases failed
      exact render_isCorrupt shown
    | none =>
      simp only [display, shown] at failed
      cases others : (display records).2 with
      | ok count =>
        rw [others] at failed
        cases failed
      | error fault' =>
        rw [others] at failed
        cases failed
        exact ih others

end Display

/-- There are no more records than bytes. -/
private theorem Parsed.length_le {archive : String} {bytes : Bytes}
    {records : List (String × Bytes)} {tail : Tail} (h : Parsed archive bytes records tail) :
    records.length ≤ bytes.length := by
  induction h with
  | clean | cut | broken => exact Nat.zero_le _
  | @record name value bytes records tail fit others ih =>
    have some_left := recordBytes_pos (Text.Utf8.encode name) value
    rw [List.length_append, List.length_cons]
    omega

namespace Reader

variable {archive : String} {bytes : Bytes} {reader : Reader} {records : List (String × Bytes)}

/-- From wherever a reader stands, the wanted ones of the records still to come are displayed. -/
private theorem records_of_whole (parsed : Parsed archive bytes records .clean)
    (h : Whole archive bytes reader) (container : Option String) {bound : Nat}
    (enough : (containers records).length < bound) (out : String) (count : Nat) :
    (Dump.records container bound ⟨out, count, none, reader⟩).outcome =
      displayAfter out count
        ((containers records).filter fun record => Dump.wanted container ⟨some record.1⟩) := by
  induction bound generalizing reader bytes records out count with
  | zero => cases enough
  | succ bound ih =>
    obtain ⟨beyond, stands, same⟩ := h.next?_eq
    have goesOn := stands.goesOn parsed
    rw [Dump.records]
    simp only [same]
    generalize containers records = rest at goesOn enough
    cases goesOn with
    | ended next =>
      simp only [next]
      rw [List.filter_nil, displayAfter_nil]
      rfl
    | @record name value behind records after next stands' added parsed =>
      have fewer : (containers records).length < bound := Nat.lt_of_succ_lt_succ enough
      simp only [next]
      cases wanted : Dump.wanted container ⟨some name⟩ with
      | false =>
        -- The value is left unread, and skipped by the next step.
        rw [List.filter_cons_of_neg (by simp [wanted])]
        simp only [Bool.false_eq_true, if_false]
        exact ih parsed (.inValue stands') fewer out count
      | true =>
        rw [List.filter_cons_of_pos (by simp [wanted])]
        -- The value is rendered from a window on it, of which whatever is unread is put back.
        obtain ⟨window, rendered, length, unread, holds⟩ :=
          stands'.holds.render_bytes (out ++ Dump.header ⟨some name⟩)
        simp only [if_true, rendered]
        cases shown : (render "" value).fault with
        | some fault =>
          rw [displayAfter_of_malformed shown]
          rfl
        | none =>
          have within := stands'.putBack holds.rest holds.remaining (length.trans stands'.length_eq)
          rw [displayAfter_of_whole shown, ← header_append]
          simp only [← String.append_assoc]
          exact ih parsed (.inValue within) fewer _ _

/-- A dump displays the wanted records of its archive. -/
private theorem outcome_of_dump (parsed : Parsed archive bytes records .clean)
    (opened : ofBytes archive bytes = .ok reader) (container : Option String) :
    (reader.dump container).outcome =
      display ((containers records).filter fun record => Dump.wanted container ⟨some record.1⟩) := by
  obtain ⟨bytes', stands, others⟩ := atRecord_of_parsed parsed opened
  have enough : (containers (body records)).length < reader.source.rest.length + 1 := by
    rw [stands.rest]
    exact Nat.lt_succ_of_le (Nat.le_trans (List.length_filter_le _ _) others.length_le)
  have shown := records_of_whole others (.atRecord stands) container enough "" 0
  rwa [containers_body, displayAfter_start] at shown

/-- A dump of one container displays the records of its name. -/
theorem outcome_of_dump_some (parsed : Parsed archive bytes records .clean)
    (opened : ofBytes archive bytes = .ok reader) (name : String) :
    (reader.dump (some name)).outcome = display (recordsOf name records) := by
  rw [outcome_of_dump parsed opened]
  simp [recordsOf, Dump.wanted]

/-- The dump of a well-framed archive displays its container records, that of one container those of
them that speak of it: item by item, up to what can be shown of the first malformed one, or all of them,
with their number. It is the same for all archives that agree in these records, whatever else stands in them. -/
theorem dump_filters (parsed : Parsed archive bytes records .clean)
    (opened : ofBytes archive bytes = .ok reader) (name : String) :
    (reader.dump none).outcome = display (containers records) ∧
      (reader.dump (some name)).outcome = display (recordsOf name records) ∧
      Displays (containers records) (reader.dump none).outcome ∧
      Displays (recordsOf name records) (reader.dump (some name)).outcome ∧
      (∀ fault, (reader.dump (some name)).fault = some fault → fault.isCorrupt = true) ∧
      ∀ {archive' : String} {bytes' : Bytes} {reader' : Reader} {records' : List (String × Bytes)},
        Parsed archive' bytes' records' .clean → ofBytes archive' bytes' = .ok reader' →
        recordsOf name records' = recordsOf name records →
        (reader'.dump (some name)).outcome = (reader.dump (some name)).outcome := by
  have filtered := outcome_of_dump_some parsed opened name
  have whole : (reader.dump none).outcome = display (containers records) := by
    rw [outcome_of_dump parsed opened]
    simp [Dump.wanted]
  refine ⟨whole, filtered, ?_, ?_, ?_, ?_⟩
  · rw [whole]
    exact displays_display _
  · rw [filtered]
    exact displays_display _
  · intro fault failed
    have outcome := congrArg Prod.snd filtered
    simp only [Dump.outcome, failed] at outcome
    exact display_isCorrupt outcome.symm
  · intro archive' bytes' reader' records' parsed' opened' same
    rw [outcome_of_dump_some parsed' opened', filtered, same]

/-- A record of another container that is no sequence of items, and a reserved one, between two of the
container shown, of which the second is cut short; with the other record changed, the same is shown. -/
theorem dump_between_others :
    let records := fun other : Bytes => [("c", [0, 0, 0, 0, 0, 0, 0, 0, 0, 0, 0, 0]), ("d", other),
      (ownerName, [97]), ("c", [0, 0, 0, 9, 7, 7])]
    ∃ reader reader',
      ofBytes "a.log" (recordsBytes (named (records [255, 255]))) = .ok reader ∧
      ofBytes "b.log" (recordsBytes (named (records []))) = .ok reader' ∧
      (reader.dump (some "c")).outcome =
        ("Container: c\n============\n\n\nLogType:\nLogLength:0\nLog Contents:\n\n" ++
          "Container: c\n============\n", .error (.streamEnded 9 2)) ∧
      (reader'.dump (some "c")).outcome = (reader.dump (some "c")).outcome := by
  intro records
  have parsed (archive : String) : Parsed archive (recordsBytes (named (records [255, 255])))
      (records [255, 255]) .clean := by
    apply Parsed.of_records
    unfold Session.Fits
    decide
  have changed (archive : String) :
      Parsed archive (recordsBytes (named (records []))) (records []) .clean := by
    apply Parsed.of_records
    unfold Session.Fits
    decide
  obtain ⟨reader, opened⟩ := exists_reader_of_parsed (parsed "a.log") (by decide)
  obtain ⟨reader', opened'⟩ := exists_reader_of_parsed (changed "b.log") (by decide)
  obtain ⟨-, shown, -, -, -, alike⟩ := dump_filters (parsed "a.log") opened "c"
  have entry : Itemized [0, 0, 0, 0, 0, 0, 0, 0, 0, 0, 0, 0] [.entry [] []] .clean :=
    @Itemized.item (.entry [] []) [] [] .clean (by decide) .clean
  have cut : Itemized [0, 0, 0, 9, 7, 7] [] (.flawed (.streamEnded 9 2)) :=
    .flawed (@Flawed.shortName 9 [7, 7] (by decide) (by decide))
  have display_others : display [("c", [0, 0, 0, 0, 0, 0, 0, 0, 0, 0, 0, 0]), ("c", [0, 0, 0, 9, 7, 7])] =
      ("Container: c\n============\n\n\nLogType:\nLogLength:0\nLog Contents:\n\n" ++
        "Container: c\n============\n", .error (.streamEnded 9 2)) := by
    rw [← (Displays.whole entry (.malformed cut rfl)).eq_display]
    decide +kernel
  refine ⟨reader, reader', opened, opened', shown.trans ?_, alike (changed "b.log") opened' (by decide)⟩
  exact display_others

end Reader

end ContainerLogs.Archive
