import ContainerLogs.Archive.Reader
import ContainerLogs.Proofs.Archive.Start
import ContainerLogs.Proofs.Text.Utf8
import ContainerLogs.Proofs.Wire.Feed

/-!
Reading records back. A reader stands between two records or within the value of one; wherever it
stands, the next record is found, however much of the value before it was read.
-/
namespace ContainerLogs.Archive

open Running
open Session (Fits)

/-- Records as they are written under their names. -/
def named (records : List (String × Bytes)) : List (Bytes × Bytes) :=
  records.map fun (name, value) => (Text.Utf8.encode name, value)

/-- Records that speak of containers and whose lengths fit their fields. -/
def Ordinary (records : List (String × Bytes)) : Prop :=
  ∀ record ∈ records, isReserved record.1 = false ∧ Fits (Text.Utf8.encode record.1) record.2

namespace Header

variable {name : String} {value tail : Bytes} {source : Source}

/-- A header as it stands in the file. -/
def bytes (header : Header) : Bytes :=
  Wire.counted (Text.Utf8.encode header.name) ++ Wire.long header.length

/-- The lengths in a header fit their fields. -/
def InRange (header : Header) : Prop :=
  Wire.fits Wire.intWidth (Text.Utf8.encode header.name).length = true ∧
    Wire.fits Wire.longWidth header.length = true

theorem inRange_of_fits (fit : Fits (Text.Utf8.encode name) value) :
    InRange ⟨name, value.length⟩ := fit

theorem recordBytes_eq (name : String) (value : Bytes) :
    recordBytes (Text.Utf8.encode name) value = bytes ⟨name, value.length⟩ ++ value := by
  simp [recordBytes, bytes]

theorem read?_of_start {archive : String} {keyLength : Nat} {between : Source}
    (start : Feed.readIntOrEnd source = .ok (some (.ofNat keyLength)) between) :
    read? archive source = (do
      let bytes ← Feed.readExact keyLength
      let name ← decodeName archive bytes
      match ← Feed.readLong with
      | .negSucc n => throw (.negativeValue (.negSucc n) archive)
      | .ofNat length => pure (some ⟨name, length⟩) : Reading Source (Option Header)) between := by
  unfold read?
  exact bind_of_ok start _

/-- Once its name was read, a header has only the length of its value left. -/
theorem read?_of_name (archive : String)
    (inRange : Wire.fits Wire.intWidth (Text.Utf8.encode name).length = true)
    (h : source.rest = Wire.counted (Text.Utf8.encode name) ++ tail) :
    ∃ known, Feed.left known = tail ∧ read? archive source = (do
      match ← Feed.readLong with
      | .negSucc n => throw (.negativeValue (.negSucc n) archive)
      | .ofNat length => pure (some ⟨name, length⟩) : Reading Source (Option Header)) known := by
  rw [Wire.counted, List.append_assoc] at h
  obtain ⟨between, start, rest⟩ := Feed.readIntOrEnd_of_left inRange (show Feed.left source = _ from h)
  obtain ⟨known, exact, rest'⟩ := Feed.readExact_of_left rest
  have decoded : decodeName archive (Text.Utf8.encode name) known = .ok name known := by
    rw [decodeName, Text.Utf8.decode?_encode]
  refine ⟨known, rest', ?_⟩
  rw [read?_of_start start, bind_of_ok exact]
  exact bind_of_ok decoded _

theorem read?_of_bytes (archive : String) {header : Header} (inRange : header.InRange)
    (h : source.rest = header.bytes ++ tail) :
    ∃ after, read? archive source = .ok (some header) after ∧ after.rest = tail := by
  rw [bytes, List.append_assoc] at h
  obtain ⟨known, rest, read⟩ := read?_of_name archive inRange.1 h
  obtain ⟨after, length, rest'⟩ := Feed.readLong_of_left inRange.2 rest
  refine ⟨after, ?_, rest'⟩
  rw [read]
  exact bind_of_ok length _

theorem read?_of_rest (archive : String) (fit : Fits (Text.Utf8.encode name) value)
    (h : source.rest = recordBytes (Text.Utf8.encode name) value ++ tail) :
    ∃ after, read? archive source = .ok (some ⟨name, value.length⟩) after ∧
      after.rest = value ++ tail := by
  rw [recordBytes_eq, List.append_assoc] at h
  exact read?_of_bytes archive (inRange_of_fits fit) h

theorem read?_at_end (archive : String) (h : source.rest = []) :
    ∃ after, read? archive source = .ok none after ∧ after.rest = [] := by
  refine ⟨(source.read Wire.intWidth).2, ?_, by simp [Source.read, h]⟩
  have nothing : (source.read Wire.intWidth).1 = [] := by simp [Source.read, h]
  unfold read?
  rw [Reading.bind_eq_ok]
  refine ⟨none, _, ?_, rfl⟩
  unfold Feed.readIntOrEnd
  rw [Reading.bind_eq_ok]
  refine ⟨[], _, ?_, rfl⟩
  rw [← nothing]
  rfl

end Header

namespace Window

variable {window : Window} {unread tail : Bytes}

/-- So much of a value was not read yet, and behind it the archive goes on. -/
structure Holds (window : Window) (unread tail : Bytes) : Prop where
  isOpen : window.isOpen = true
  rest : window.source.rest = unread ++ tail
  remaining : window.value.remaining = unread.length

theorem Holds.pull (h : window.Holds unread tail) {demand : Nat} (positive : 0 < demand) :
    ∃ after, pull demand window = .ok (unread.take demand) after ∧
      after.Holds (unread.drop demand) tail ∧ after.value.length = window.value.length := by
  unfold Window.pull
  by_cases finished : window.value.remaining = 0
  · obtain rfl : unread = [] := List.length_eq_zero_iff.1 (h.remaining.symm.trans finished)
    rw [if_pos finished]
    exact ⟨window, by simp, by simpa using h, rfl⟩
  · rw [if_neg finished, if_neg (by simp [h.isOpen])]
    have front : (window.source.readLarge (min demand window.value.remaining)).1 =
        unread.take demand := by
      rw [Source.readLarge, Source.take_fst, h.rest, h.remaining,
        List.take_append_of_le_length (by omega)]
      simp
    have back : (window.source.readLarge (min demand window.value.remaining)).2.rest =
        unread.drop demand ++ tail := by
      rw [Source.readLarge, Source.rest_take, h.rest, h.remaining,
        List.drop_append_of_le_length (by omega)]
      congr 1
      rw [List.drop_eq_drop_iff]
      omega
    have nonempty : ¬ (unread.take demand).isEmpty := by
      rw [h.remaining] at finished
      rw [List.isEmpty_iff, List.take_eq_nil_iff, ← List.length_eq_zero_iff]
      omega
    simp only [front]
    rw [if_neg nonempty]
    refine ⟨_, rfl, ⟨h.isOpen, back, ?_⟩, rfl⟩
    simp only [h.remaining, List.length_take, List.length_drop]
    omega

theorem Holds.gatherRest (h : window.Holds unread tail) {size : Nat} (positive : 0 < size)
    (pieces : List Bytes) :
    ∃ after, gatherRest size pieces window = .ok (pieces.reverse.flatten ++ unread) after ∧
      after.Holds [] tail ∧ after.value.length = window.value.length := by
  induction count : unread.length using Nat.strongRecOn generalizing window unread pieces with
  | ind count ih =>
    subst count
    rw [Window.gatherRest]
    by_cases finished : window.value.remaining = 0
    · obtain rfl : unread = [] := List.length_eq_zero_iff.1 (h.remaining.symm.trans finished)
      rw [dif_pos finished]
      exact ⟨window, by simp, h, rfl⟩
    · obtain ⟨between, pulled, holds, length⟩ := h.pull positive
      have shorter : (unread.drop size).length < unread.length := by
        rw [h.remaining] at finished
        rw [List.length_drop]
        omega
      obtain ⟨after, gathered, holds', length'⟩ := ih _ shorter holds (unread.take size :: pieces) rfl
      refine ⟨after, ?_, holds', length'.trans length⟩
      rw [dif_neg finished]
      split
      · rename_i refused
        rw [pulled] at refused
        cases refused
      · rename_i given
        rw [pulled] at given
        cases given
        rw [gathered]
        simp

theorem Holds.readAll (h : window.Holds unread tail) :
    ∃ after, readAll window = .ok unread after ∧ after.Holds [] tail ∧
      after.value.length = window.value.length :=
  h.gatherRest (by decide) []

theorem Holds.drain (h : window.Holds unread tail) :
    ∃ after, drain window = .ok () after ∧ after.Holds [] tail ∧
      after.value.length = window.value.length := by
  obtain ⟨after, gathered, holds, length⟩ := h.gatherRest (show 0 < skippedBytes by decide) []
  exact ⟨after, Reading.bind_eq_ok.2 ⟨_, after, gathered, rfl⟩, holds, length⟩

end Window

namespace Reader

variable {reader : Reader} {records : List (String × Bytes)} {name : String}
  {unread value : Bytes} {number length : Nat}

/-- The next thing to be read is a record, or the end. -/
structure Between (records : List (String × Bytes)) (reader : Reader) : Prop where
  isOpen : reader.isOpen = true
  rest : reader.source.rest = recordsBytes (named records)
  current : reader.current = none

/-- A value was handed out and read in part; further records come after it. -/
structure Within (number length : Nat) (unread : Bytes) (records : List (String × Bytes))
    (reader : Reader) : Prop where
  isOpen : reader.isOpen = true
  rest : reader.source.rest = unread ++ recordsBytes (named records)
  current : reader.current = some number
  value : reader.values[number]? = some ⟨length, unread.length⟩

def Stands (records : List (String × Bytes)) (reader : Reader) : Prop :=
  Between records reader ∨ ∃ number length unread, Within number length unread records reader

theorem Within.window (h : Within number length unread records reader) :
    (reader.window number).Holds unread (recordsBytes (named records)) where
  isOpen := h.isOpen
  rest := h.rest
  remaining := by simp [Reader.window, h.value]

theorem Within.putBack (h : Within number length unread records reader) {window : Window}
    {unread' : Bytes} (holds : window.Holds unread' (recordsBytes (named records)))
    (same : window.value.length = (reader.window number).value.length) :
    Within number length unread' records (reader.putBack number window) where
  isOpen := h.isOpen
  rest := holds.rest
  current := h.current
  value := by
    have inBounds : number < reader.values.size := (Array.getElem?_eq_some_iff.1 h.value).1
    have whole : window.value = ⟨length, unread'.length⟩ := by
      rw [Reader.window, h.value] at same
      rw [← holds.remaining, ← show window.value.length = length from same]
    simp [Reader.putBack, inBounds, whole]

theorem onValue_of_ok {α : Type} {reading : Reading Window α} {a : α} {window : Window}
    (read : reading (reader.window number) = .ok a window) :
    onValue number reading reader = .ok a (reader.putBack number window) := by
  simp [onValue, read]

private theorem leaveCurrent_of_stands (h : Stands records reader) :
    ∃ after, leaveCurrent reader = .ok () after ∧ Between records after := by
  rcases h with between | ⟨number, length, unread, within⟩
  · refine ⟨reader, ?_, between⟩
    unfold leaveCurrent
    rw [get_bind, between.current]
    rfl
  · obtain ⟨window, drained, holds, same⟩ := within.window.drain
    have left := within.putBack holds same
    refine ⟨{ reader.putBack number window with current := none }, ?_, left.isOpen, left.rest, rfl⟩
    unfold leaveCurrent
    rw [get_bind, within.current]
    exact bind_of_ok (onValue_of_ok drained) _

theorem findRecord?_eq (reader : Reader) :
    findRecord? reader =
      match readHeader? reader with
      | .error fault reader => .error fault reader
      | .ok none reader => .ok none reader
      | .ok (some header) headed =>
          if isReserved header.name then
            match skip header.length headed with
            | .error fault reader => .error fault reader
            | .ok () beyond => findRecord? beyond
          else .ok (some header) headed := by
  conv_lhs => rw [findRecord?]
  split <;> rename_i read <;> simp only [read]
  rename_i header headed
  split
  · cases skip header.length headed <;> rfl
  · rfl

/-- Before a record, its header is found. -/
private theorem findRecord?_of_between (h : Between ((name, value) :: records) reader)
    (ordinary : isReserved name = false) (fit : Fits (Text.Utf8.encode name) value) :
    ∃ source, findRecord? reader = .ok (some ⟨name, value.length⟩) { reader with source } ∧
      source.rest = value ++ recordsBytes (named records) := by
  obtain ⟨source, read, rest⟩ := Header.read?_of_rest reader.path fit h.rest
  refine ⟨source, ?_, rest⟩
  have header : readHeader? reader = .ok (some ⟨name, value.length⟩) { reader with source } := by
    simp [readHeader?, h.isOpen, read]
  rw [findRecord?_eq]
  simp only [header, ordinary, Bool.false_eq_true, if_false]

private theorem findRecord?_at_end (h : Between [] reader) :
    ∃ source, findRecord? reader = .ok none { reader with source } ∧ source.rest = [] := by
  obtain ⟨source, read, rest⟩ := Header.read?_at_end reader.path h.rest
  refine ⟨source, ?_, rest⟩
  have header : readHeader? reader = .ok none { reader with source } := by
    simp [readHeader?, h.isOpen, read]
  rw [findRecord?_eq]
  simp only [header]

/-- The next record is handed out with all of its value, whatever of the one before was read. -/
theorem next?_of_stands (h : Stands ((name, value) :: records) reader)
    (ordinary : isReserved name = false) (fit : Fits (Text.Utf8.encode name) value) :
    ∃ number after, next? reader = .ok (some (⟨some name⟩, number)) after ∧
      Within number value.length value records after := by
  obtain ⟨between, left, stands⟩ := leaveCurrent_of_stands h
  obtain ⟨source, found, rest⟩ := findRecord?_of_between stands ordinary fit
  refine ⟨between.values.size, { between with
    source
    values := between.values.push ⟨value.length, value.length⟩
    current := some between.values.size }, ?_, stands.isOpen, rest, rfl, by simp⟩
  exact Reading.bind_eq_ok.2 ⟨(), between, left, Reading.bind_eq_ok.2 ⟨_, _, found, rfl⟩⟩

theorem next?_at_end (h : Stands [] reader) :
    ∃ after, next? reader = .ok none after ∧ Stands [] after := by
  obtain ⟨between, left, stands⟩ := leaveCurrent_of_stands h
  obtain ⟨source, found, rest⟩ := findRecord?_at_end stands
  refine ⟨{ between with source }, ?_, .inl ⟨stands.isOpen, rest, stands.current⟩⟩
  exact Reading.bind_eq_ok.2 ⟨(), between, left, Reading.bind_eq_ok.2 ⟨_, _, found, rfl⟩⟩

/-- A read of a value: some of it, at most as much as demanded, or all that is left. -/
inductive Request where
  | piece (demand : Nat) (positive : 0 < demand)
  | all

/-- Reads from the value with a number. -/
def Request.take (number : Nat) : Request → Reading Reader Bytes
  | piece demand _ => onValue number (Window.pull demand)
  | all => onValue number Window.readAll

/-- Reads from a value one after the other: all that they bring. -/
def takeEach (number : Nat) : List Request → Reading Reader Bytes
  | [] => pure []
  | request :: requests => do
      let piece ← request.take number
      let pieces ← takeEach number requests
      pure (piece ++ pieces)

private theorem Within.take (h : Within number length unread records reader) (request : Request) :
    ∃ piece after unread', request.take number reader = .ok piece after ∧
      unread = piece ++ unread' ∧ Within number length unread' records after := by
  cases request with
  | piece demand positive =>
    obtain ⟨window, pulled, holds, same⟩ := h.window.pull positive
    exact ⟨_, _, _, onValue_of_ok pulled, (List.take_append_drop demand unread).symm,
      h.putBack holds same⟩
  | all =>
    obtain ⟨window, read, holds, same⟩ := h.window.readAll
    exact ⟨_, _, [], onValue_of_ok read, (List.append_nil _).symm, h.putBack holds same⟩

private theorem Within.takeEach (h : Within number length unread records reader)
    (requests : List Request) :
    ∃ taken after unread', takeEach number requests reader = .ok taken after ∧
      unread = taken ++ unread' ∧ Within number length unread' records after := by
  induction requests generalizing reader unread with
  | nil => exact ⟨[], reader, unread, rfl, rfl, h⟩
  | cons request requests ih =>
    obtain ⟨piece, between, unread', first, rfl, within⟩ := h.take request
    obtain ⟨pieces, after, unread'', others, rfl, within'⟩ := ih within
    refine ⟨piece ++ pieces, after, unread'', ?_, (List.append_assoc _ _ _).symm, within'⟩
    exact Reading.bind_eq_ok.2 ⟨_, _, first, Reading.bind_eq_ok.2 ⟨_, _, others, rfl⟩⟩

/-- So many further calls all find nothing. -/
def Spent : (calls : Nat) → Reader → Prop
  | 0, _ => True
  | calls + 1, reader => ∃ after, next? reader = .ok none after ∧ Spent calls after

/-- A reader hands out records in order. Each value has its length, and whatever is read of it first
is its front part, which the rest of it completes; and none of these reads keeps the records that
follow from being handed out. Then there are no more, however often one asks. -/
def Delivers : List (Key × Bytes) → Reader → Prop
  | [], reader => ∀ calls, Spent calls reader
  | (key, value) :: records, reader => ∃ number handed,
      next? reader = .ok (some (key, number)) handed ∧
      handed.values[number]? = some ⟨value.length, value.length⟩ ∧
      ∀ requests, ∃ taken after, takeEach number requests handed = .ok taken after ∧
        (∃ rest ended, Request.all.take number after = .ok rest ended ∧ taken ++ rest = value) ∧
        Delivers records after

private theorem spent_of_stands (h : Stands [] reader) (calls : Nat) : Spent calls reader := by
  induction calls generalizing reader with
  | zero => trivial
  | succ calls ih =>
    obtain ⟨after, nothing, stands⟩ := next?_at_end h
    exact ⟨after, nothing, ih stands⟩

/-- The key that a record is handed out under. -/
def keyed (records : List (String × Bytes)) : List (Key × Bytes) :=
  records.map fun (name, value) => (⟨some name⟩, value)

theorem delivers_of_stands (h : Stands records reader) (ordinary : Ordinary records) :
    Delivers (keyed records) reader := by
  induction records generalizing reader with
  | nil => exact spent_of_stands h
  | cons record records ih =>
    obtain ⟨name, value⟩ := record
    obtain ⟨⟨plain, fit⟩, others⟩ := List.forall_mem_cons.1 ordinary
    obtain ⟨number, handed, next, within⟩ := next?_of_stands h plain fit
    refine ⟨number, handed, next, within.value, fun requests => ?_⟩
    obtain ⟨taken, after, unread, read, rfl, within'⟩ := within.takeEach requests
    refine ⟨taken, after, read, ?_, ih (.inr ⟨_, _, _, within'⟩) others⟩
    obtain ⟨window, all, holds, same⟩ := within'.window.readAll
    exact ⟨unread, _, onValue_of_ok all, rfl⟩

/-- Going through the records without reading their values lists all their keys. -/
theorem listRecords_of_stands (h : Stands records reader) (ordinary : Ordinary records)
    (count : Nat) : (listRecords count reader).1.map (·.1) =
        ((keyed records).take count).map (·.1) ∧ (listRecords count reader).2.1 = none := by
  induction count generalizing records reader with
  | zero => simp [listRecords]
  | succ count ih =>
    cases records with
    | nil =>
      obtain ⟨after, nothing, -⟩ := next?_at_end h
      simp [listRecords, nothing, keyed]
    | cons record records =>
      obtain ⟨name, value⟩ := record
      obtain ⟨⟨plain, fit⟩, others⟩ := List.forall_mem_cons.1 ordinary
      obtain ⟨number, handed, next, within⟩ := next?_of_stands h plain fit
      obtain ⟨names, stopped⟩ := ih (.inr ⟨_, _, _, within⟩) others
      simp only [listRecords, next]
      exact ⟨by simpa [keyed] using names, stopped⟩

theorem takePreamble_eq (reader : Reader) :
    takePreamble reader =
      match Header.read? reader.path reader.source with
      | .error fault _ => .error fault
      | .ok none source => .ok { reader with source := source }
      | .ok (some header) source =>
          if isReserved header.name then
            match Feed.readExact header.length source with
            | .error fault _ => .error fault
            | .ok value source =>
                match describe header value reader with
                | .error fault => .error fault
                | .ok described => takePreamble { described with source := source }
          else .ok { reader with source := source.rewound reader.source } := by
  conv_lhs => rw [takePreamble]
  split <;> rename_i read <;> simp only [read]
  rename_i header source
  split
  · cases Feed.readExact header.length source <;> rfl
  · rfl

/-- A reserved record at the start is taken in. -/
private theorem takePreamble_of_reserved {described : Reader} {tail : Bytes}
    (reserved : isReserved name = true) (fit : Fits (Text.Utf8.encode name) value)
    (h : reader.source.rest = recordBytes (Text.Utf8.encode name) value ++ tail)
    (taken : describe ⟨name, value.length⟩ value reader = .ok described) :
    ∃ source, source.rest = tail ∧ takePreamble reader = takePreamble { described with source } := by
  obtain ⟨headed, read, rest⟩ := Header.read?_of_rest reader.path fit h
  obtain ⟨source, exact, rest'⟩ := Feed.readExact_of_left (show Feed.left headed = _ from rest)
  refine ⟨source, rest', ?_⟩
  conv_lhs => rw [takePreamble_eq]
  simp only [read, exact, reserved, if_true, taken]

/-- Where container records begin, or the archive ends, opening stops and reads nothing of them. -/
private theorem takePreamble_of_ordinary (h : reader.source.rest = recordsBytes (named records))
    (ordinary : Ordinary records) :
    ∃ source, takePreamble reader = .ok { reader with source } ∧
      source.rest = recordsBytes (named records) := by
  cases records with
  | nil =>
    obtain ⟨source, read, rest⟩ := Header.read?_at_end reader.path h
    refine ⟨source, ?_, rest⟩
    rw [takePreamble_eq]
    simp only [read]
  | cons record records =>
    obtain ⟨name, value⟩ := record
    obtain ⟨⟨plain, fit⟩, -⟩ := List.forall_mem_cons.1 ordinary
    obtain ⟨source, read, -⟩ := Header.read?_of_rest reader.path fit h
    refine ⟨source.rewound reader.source, ?_, by rw [Source.rest_rewound, h]⟩
    rw [takePreamble_eq]
    simp only [read, plain, Bool.false_eq_true, if_false]

private theorem describe_version (reader : Reader) (length : Nat) :
    describe ⟨versionName, length⟩ (Wire.int formatVersion) reader =
      .ok { reader with version := some formatVersion } := by
  have value : Wire.signedOf (Wire.int formatVersion) = formatVersion :=
    Wire.signedOf_int (by decide)
  simp [describe, value, Wire.intWidth]

private theorem describe_owner (reader : Reader) (length : Nat) (identity : String) :
    describe ⟨ownerName, length⟩ (Text.Utf8.encode identity) reader =
      .ok { reader with owner := some identity } := by
  simp [describe, ownerName, versionName, Text.Utf8.decodeLenient_encode]

/-- An archive that starts with the preamble of a writer is opened, and its records come next. -/
theorem ofBytes_of_preamble {identity : String} (path : String)
    (fits : ∀ record ∈ preamble identity, Fits record.1 record.2) (ordinary : Ordinary records) :
    ∃ reader, ofBytes path (recordsBytes (preamble identity ++ named records)) = .ok reader ∧
      reader.version = some formatVersion ∧ reader.owner = some identity ∧
      Between records reader := by
  obtain ⟨versionFit, ownerFit⟩ : Fits (Text.Utf8.encode versionName) (Wire.int formatVersion) ∧
      Fits (Text.Utf8.encode ownerName) (Text.Utf8.encode identity) := by
    simpa [preamble] using fits
  let first : Reader := {
    path
    source := { rest := recordsBytes (preamble identity ++ named records) } }
  have start : first.source.rest =
      recordBytes (Text.Utf8.encode versionName) (Wire.int formatVersion) ++
        (recordBytes (Text.Utf8.encode ownerName) (Text.Utf8.encode identity) ++
          recordsBytes (named records)) := by simp [first, preamble]
  obtain ⟨behind, rest, taken⟩ :=
    takePreamble_of_reserved (by decide) versionFit start (describe_version first _)
  let versioned : Reader := { first with version := some formatVersion, source := behind }
  obtain ⟨behind', rest', taken'⟩ :=
    takePreamble_of_reserved (by decide) ownerFit rest (describe_owner versioned _ identity)
  let owned : Reader := { versioned with owner := some identity, source := behind' }
  obtain ⟨source, stopped, rest''⟩ :=
    takePreamble_of_ordinary (show owned.source.rest = _ from rest') ordinary
  refine ⟨_, (taken.trans taken').trans stopped, rfl, rfl, rfl, rest'', rfl⟩

end Reader

end ContainerLogs.Archive
