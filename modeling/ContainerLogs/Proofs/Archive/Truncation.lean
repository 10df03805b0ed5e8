import ContainerLogs.Proofs.Archive.Parsing
import ContainerLogs.Proofs.Archive.RoundTrip

/-!
Archives that lost their end. Of the first bytes of an archive, the records that are whole are read
as ever; if the cut is not between two records, reading comes to a premature end, and no part of the
record that was cut passes for all of it.
-/
namespace ContainerLogs.Archive

open Session (Fits)

/-- The records that end within so many bytes. -/
def within : (count : Nat) → List (String × Bytes) → List (String × Bytes)
  | _, [] => []
  | count, (name, value) :: records =>
      let size := (recordBytes (Text.Utf8.encode name) value).length
      if size ≤ count then (name, value) :: within (count - size) records else []

/-- So many bytes end where a record ends, or at the start. -/
def Boundary (count : Nat) (records : List (String × Bytes)) : Prop :=
  ∃ front, front <+: records ∧ (recordsBytes (named front)).length = count

/-- What the first bytes of records come to an end with. -/
def CutAt (count : Nat) (records : List (String × Bytes)) : Tail → Prop
  | .clean => Boundary count records
  | .broken fault => ¬ Boundary count records ∧ fault.isPremature = true
  | .cut header present => ¬ Boundary count records ∧ ∃ value,
      within count records ++ [(header.name, value)] <+: records ∧ header.length = value.length ∧
        present <+: value ∧ present.length < value.length

section Front

variable {archive : String}

/-- The front part of a header ends too early, wherever it ends. -/
private theorem malformed_of_front {header : Header} (inRange : header.InRange) {count : Nat}
    (positive : 0 < count) (short : count < header.bytes.length) :
    ∃ fault, Malformed archive (header.bytes.take count) fault ∧ fault.isPremature = true := by
  have length : header.bytes.length = 4 + (Text.Utf8.encode header.name).length + 8 := by
    simp [Header.bytes]
  by_cases inLength : count < Wire.intWidth
  · refine ⟨_, .shortKeyLength ?_ ?_, rfl⟩
    · rw [ne_eq, List.take_eq_nil_iff, not_or]
      exact ⟨Nat.ne_of_gt positive, header.bytes_ne_nil⟩
    · rw [List.length_take]
      omega
  have width : Wire.intWidth = 4 := rfl
  by_cases inKey : count < 4 + (Text.Utf8.encode header.name).length
  · have front : header.bytes.take count = Wire.int (Text.Utf8.encode header.name).length ++
        (Text.Utf8.encode header.name).take (count - 4) := by
      rw [Header.bytes, Wire.counted, List.append_assoc, List.take_append,
        List.take_of_length_le (by rw [Wire.length_int]; omega), Wire.length_int,
        List.take_append_of_le_length (by omega)]
    rw [front]
    exact ⟨_, .shortKey inRange.1 (by rw [List.length_take]; omega), rfl⟩
  · have front : header.bytes.take count = Wire.counted (Text.Utf8.encode header.name) ++
        (Wire.long header.length).take (count - (4 + (Text.Utf8.encode header.name).length)) := by
      rw [Header.bytes, List.take_append,
        List.take_of_length_le (by rw [Wire.length_counted]; omega), Wire.length_counted]
    rw [front]
    refine ⟨_, .shortValueLength inRange.1 ?_, rfl⟩
    rw [List.length_take, Wire.length_long, show Wire.longWidth = 8 from rfl]
    omega

variable {name : String} {value : Bytes} {records : List (String × Bytes)} {count : Nat}

private theorem recordsBytes_named_cons : recordsBytes (named ((name, value) :: records)) =
    recordBytes (Text.Utf8.encode name) value ++ recordsBytes (named records) := by
  simp [named]

private theorem within_cons_of_le
    (large : (recordBytes (Text.Utf8.encode name) value).length ≤ count) :
    within count ((name, value) :: records) = (name, value) ::
      within (count - (recordBytes (Text.Utf8.encode name) value).length) records :=
  if_pos large

private theorem within_cons_of_lt
    (short : count < (recordBytes (Text.Utf8.encode name) value).length) :
    within count ((name, value) :: records) = [] :=
  if_neg (Nat.not_le.2 short)

private theorem not_boundary (positive : 0 < count)
    (short : count < (recordBytes (Text.Utf8.encode name) value).length) :
    ¬ Boundary count ((name, value) :: records) := by
  rintro ⟨front, isFront, length⟩
  cases front with
  | nil =>
    have nothing : 0 = count := length
    omega
  | cons record front =>
    obtain ⟨rfl, -⟩ := List.cons_prefix_cons.1 isFront
    rw [recordsBytes_named_cons, List.length_append] at length
    omega

/-- A cut behind a record is between records if it is so among those that follow. -/
private theorem boundary_cons (large : (recordBytes (Text.Utf8.encode name) value).length ≤ count) :
    Boundary count ((name, value) :: records) ↔
      Boundary (count - (recordBytes (Text.Utf8.encode name) value).length) records := by
  have positive := recordBytes_pos (Text.Utf8.encode name) value
  constructor
  · rintro ⟨front, isFront, length⟩
    cases front with
    | nil =>
      have nothing : 0 = count := length
      omega
    | cons record front =>
      obtain ⟨rfl, isFront'⟩ := List.cons_prefix_cons.1 isFront
      rw [recordsBytes_named_cons, List.length_append] at length
      exact ⟨front, isFront', by omega⟩
  · rintro ⟨front, isFront, length⟩
    refine ⟨(name, value) :: front, List.cons_prefix_cons.2 ⟨rfl, isFront⟩, ?_⟩
    rw [recordsBytes_named_cons, List.length_append]
    omega

private theorem CutAt.cons {tail : Tail}
    (large : (recordBytes (Text.Utf8.encode name) value).length ≤ count)
    (h : CutAt (count - (recordBytes (Text.Utf8.encode name) value).length) records tail) :
    CutAt count ((name, value) :: records) tail := by
  have boundary : Boundary count ((name, value) :: records) ↔ Boundary _ records :=
    boundary_cons large
  cases tail with
  | clean => exact boundary.2 h
  | broken fault => exact ⟨fun between => h.1 (boundary.1 between), h.2⟩
  | cut header present =>
    obtain ⟨inside, value', next, length, front, short⟩ := h
    refine ⟨fun between => inside (boundary.1 between), value', ?_, length, front, short⟩
    rw [within_cons_of_le large]
    exact List.cons_prefix_cons.2 ⟨rfl, next⟩

/-- A record that is cut has lost its value or a part of it. -/
private theorem exists_parsed_front (archive : String) (fit : Fits (Text.Utf8.encode name) value)
    (positive : 0 < count) (short : count < (recordBytes (Text.Utf8.encode name) value).length) :
    ∃ tail, Parsed archive ((recordBytes (Text.Utf8.encode name) value).take count) [] tail ∧
      CutAt count ((name, value) :: records) tail := by
  have inside : ¬ Boundary count ((name, value) :: records) := not_boundary positive short
  have inRange := Header.inRange_of_fits fit
  rw [Header.recordBytes_eq, List.length_append] at short
  rw [Header.recordBytes_eq]
  by_cases inHeader : count < (Header.bytes ⟨name, value.length⟩).length
  · obtain ⟨fault, malformed, premature⟩ := malformed_of_front inRange positive inHeader
    rw [List.take_append_of_le_length (Nat.le_of_lt inHeader)]
    exact ⟨.broken fault, .broken malformed, inside, premature⟩
  · have front : (Header.bytes ⟨name, value.length⟩ ++ value).take count =
        Header.bytes ⟨name, value.length⟩ ++
          value.take (count - (Header.bytes ⟨name, value.length⟩).length) := by
      rw [List.take_append, List.take_of_length_le (by omega)]
    have lost : (value.take (count - (Header.bytes ⟨name, value.length⟩).length)).length <
        value.length := by
      rw [List.length_take]
      omega
    rw [front]
    refine ⟨_, .cut inRange lost, inside, value, ?_, rfl, List.take_prefix _ _, lost⟩
    rw [within_cons_of_lt]
    · exact List.cons_prefix_cons.2 ⟨rfl, List.nil_prefix⟩
    · rw [Header.recordBytes_eq, List.length_append]
      exact short

/-- The first bytes of records hold those that end in them, and then the cut. -/
private theorem exists_parsed_take (archive : String)
    (fits : ∀ record ∈ records, Fits (Text.Utf8.encode record.1) record.2)
    (enough : count ≤ (recordsBytes (named records)).length) :
    ∃ tail, Parsed archive ((recordsBytes (named records)).take count) (within count records) tail ∧
      CutAt count records tail := by
  induction records generalizing count with
  | nil =>
    obtain rfl : count = 0 := Nat.le_zero.1 enough
    exact ⟨.clean, .clean, [], List.nil_prefix, rfl⟩
  | cons record records ih =>
    obtain ⟨name, value⟩ := record
    obtain ⟨fit, others⟩ := List.forall_mem_cons.1 fits
    rw [recordsBytes_named_cons, List.length_append] at enough
    rw [recordsBytes_named_cons]
    by_cases large : (recordBytes (Text.Utf8.encode name) value).length ≤ count
    · have rest : count - (recordBytes (Text.Utf8.encode name) value).length ≤
          (recordsBytes (named records)).length := by omega
      obtain ⟨tail, parsed, cutAt⟩ := ih others rest
      refine ⟨tail, ?_, cutAt.cons large⟩
      rw [List.take_append, List.take_of_length_le large, within_cons_of_le large]
      exact .record fit parsed
    · have short := Nat.lt_of_not_le large
      rw [List.take_append_of_le_length (Nat.le_of_lt short), within_cons_of_lt short]
      by_cases nothing : count = 0
      · subst nothing
        rw [List.take_zero]
        exact ⟨.clean, .clean, [], List.nil_prefix, rfl⟩
      · exact exists_parsed_front archive fit (Nat.pos_of_ne_zero nothing) short

private theorem within_isFront (count : Nat) (records : List (String × Bytes)) :
    within count records <+: records := by
  induction records generalizing count with
  | nil => exact List.nil_prefix
  | cons record records ih =>
    obtain ⟨name, value⟩ := record
    by_cases large : (recordBytes (Text.Utf8.encode name) value).length ≤ count
    · rw [within_cons_of_le large]
      exact List.cons_prefix_cons.2 ⟨rfl, ih _⟩
    · rw [within_cons_of_lt (Nat.lt_of_not_le large)]
      exact List.nil_prefix

end Front

open Reader

/-- How the first bytes of an archive are read: its whole records are handed out, and then either
they end where a record ends, or it is told that they end too early. -/
inductive Detects (archive : String) (bytes : Bytes) (count : Nat)
    (records : List (String × Bytes)) : Prop where
  /-- The cut is in front of the first value that could be handed out. -/
  | unopened {fault : ReadFault} (failed : ofBytes archive bytes = .error fault)
      (premature : fault.isPremature = true) (inside : ¬ Boundary count records)
      (none_whole : containers (within count records) = [])
  | opened {reader : Reader} {tail : Tail} (opens : ofBytes archive bytes = .ok reader)
      (yields : Yields tail (containers (within count records)) reader)
      (cutAt : CutAt count records tail)
      (plain : ∀ header present, tail = .cut header present → isReserved header.name = false)
      (final : EndsForGood reader)

section Described

variable {described plain : List (String × Bytes)}

/-- Where reserved records stand only in front, so does all that precedes one of them. -/
private theorem reserved_of_front (ordinary : Ordinary plain) {front : List (String × Bytes)}
    {last : String × Bytes} (reserved : ∀ record ∈ described, isReserved record.1 = true)
    (lastReserved : isReserved last.1 = true) (h : front ++ [last] <+: described ++ plain) :
    ∀ record ∈ front, isReserved record.1 = true := by
  induction described generalizing front with
  | nil =>
    have among : last ∈ plain := h.subset (List.mem_append_right _ List.mem_cons_self)
    have unreserved := (ordinary last among).1
    rw [lastReserved] at unreserved
    cases unreserved
  | cons record described ih =>
    obtain ⟨first, others⟩ := List.forall_mem_cons.1 reserved
    cases front with
    | nil => nofun
    | cons front_record front =>
      obtain ⟨rfl, following⟩ := List.cons_prefix_cons.1 h
      exact List.forall_mem_cons.2 ⟨first, ih others following⟩

private theorem openingFault?_of_within {archive : String} {count : Nat} {tail : Tail}
    (ordinary : Ordinary plain)
    (versions : ∀ record ∈ described, record.1 = versionName → record.2.length = Wire.intWidth) :
    openingFault? archive (within count (described ++ plain)) tail =
      if ∀ record ∈ within count (described ++ plain), isReserved record.1 = true then tail.refusal?
      else none := by
  unfold openingFault?
  rw [if_neg]
  rintro ⟨record, found, version, bad⟩
  have among : record ∈ described ++ plain :=
    (within_isFront _ _).subset ((List.takeWhile_prefix _).subset found)
  rcases List.mem_append.1 among with before | behind
  · exact bad (versions record before version)
  · have unreserved := (ordinary record behind).1
    rw [version] at unreserved
    exact absurd unreserved (by decide)

private theorem CutAt.premature_of_refusal? {count : Nat} {records : List (String × Bytes)}
    {tail : Tail} {fault : ReadFault} (h : CutAt count records tail)
    (refused : tail.refusal? = some fault) :
    fault.isPremature = true ∧ ¬ Boundary count records := by
  cases tail with
  | clean => cases refused
  | broken other =>
    cases refused
    exact ⟨h.2, h.1⟩
  | cut header present =>
    simp only [Tail.refusal?, Option.ite_none_right_eq_some] at refused
    rw [← Option.some.inj refused.2]
    exact ⟨rfl, h.1⟩

/-- Wherever records behind their description are cut, the cut is found. -/
private theorem detects_of_take (archive : String) {count : Nat} (ordinary : Ordinary plain)
    (fits : ∀ record ∈ described, Fits (Text.Utf8.encode record.1) record.2)
    (reserved : ∀ record ∈ described, isReserved record.1 = true)
    (versions : ∀ record ∈ described, record.1 = versionName → record.2.length = Wire.intWidth)
    (enough : count ≤ (recordsBytes (named (described ++ plain))).length) :
    Detects archive ((recordsBytes (named (described ++ plain))).take count) count
      (described ++ plain) := by
  have allFit : ∀ record ∈ described ++ plain, Fits (Text.Utf8.encode record.1) record.2 := by
    intro record among
    rcases List.mem_append.1 among with before | behind
    · exact fits record before
    · exact (ordinary record behind).2
  obtain ⟨tail, parsed, cutAt⟩ := exists_parsed_take archive allFit enough
  have follows := follows_of_parsed parsed
  have opening : openingFault? archive (within count (described ++ plain)) tail = _ :=
    openingFault?_of_within ordinary versions
  unfold Follows at follows
  rw [opening] at follows
  by_cases allReserved : ∀ record ∈ within count (described ++ plain), isReserved record.1 = true
  · rw [if_pos allReserved] at follows
    cases refused : tail.refusal? with
    | some fault =>
      rw [refused] at follows
      obtain ⟨premature, inside⟩ := cutAt.premature_of_refusal? refused
      refine .unopened follows.1 premature inside ?_
      rw [containers, List.filter_eq_nil_iff]
      intro record found
      simp [allReserved record found]
    | none =>
      rw [refused] at follows
      obtain ⟨reader, opens, -, -, yields, -⟩ := follows
      obtain ⟨_, stands⟩ := standing_of_ofBytes opens
      refine .opened opens yields cutAt ?_ stands.endsForGood
      rintro header present rfl
      simpa [Tail.refusal?] using refused
  · rw [if_neg allReserved] at follows
    obtain ⟨reader, opens, -, -, yields, -⟩ := follows
    obtain ⟨_, stands⟩ := standing_of_ofBytes opens
    refine .opened opens yields cutAt ?_ stands.endsForGood
    rintro header present rfl
    obtain ⟨-, value, next, -⟩ := cutAt
    refine Bool.eq_false_iff.2 fun lastReserved => allReserved ?_
    exact reserved_of_front ordinary reserved lastReserved next

end Described

/-- The records that describe an archive to its readers. -/
def describing (identity : String) : List (String × Bytes) :=
  [(versionName, Wire.int formatVersion), (ownerName, Text.Utf8.encode identity)]

private theorem named_describing (identity : String) :
    named (describing identity) = preamble identity := rfl

private theorem fits_describing {identity : String}
    (fits : ∀ record ∈ preamble identity, Fits record.1 record.2) :
    ∀ record ∈ describing identity, Fits (Text.Utf8.encode record.1) record.2 := by
  rw [← named_describing, named, List.forall_mem_map] at fits
  rintro ⟨name, value⟩ among
  exact fits (name, value) among

private theorem reserved_describing (identity : String) :
    ∀ record ∈ describing identity, isReserved record.1 = true := by
  simp [describing, isReserved]

private theorem versions_describing (identity : String) :
    ∀ record ∈ describing identity, record.1 = versionName → record.2.length = Wire.intWidth := by
  simp [describing, ownerName, versionName, Wire.intWidth]

namespace Append

open Session

variable {request : Append} {session : Session}

private theorem collect_of_record? {record : Bytes × Bytes}
    (gathered : request.record? session = some record) :
    ∃ collection collected, request.key.bytes = .ok record.1 ∧
      request.collect session = .ok collection collected ∧ record.2 = collection.value := by
  unfold record? at gathered
  split at gathered
  · rename_i key collection collected good made
    cases gathered
    exact ⟨collection, collected, good, made, rfl⟩
  · cases gathered

private theorem perform_of_unfit {output : Output} {record : Bytes × Bytes}
    (opened : session.writer.output = some output) (gathered : request.record? session = some record)
    (unfit : ¬ Fits record.1 record.2) :
    ∃ fault after, request.perform session = .error (.outOfRange fault) after := by
  obtain ⟨collection, collected, good, made, value⟩ := collect_of_record? gathered
  have same : (left (request.collect session)).writer = session.writer := writer_of_collect session
  rw [made] at same
  have opened' : collected.writer.output = some output := by rw [← opened, ← same]; rfl
  rw [value] at unfit
  obtain ⟨fault, refused⟩ := writeRecord_of_unfit opened' unfit
  exact ⟨fault, collected, append_of_writeFault opened good made refused⟩

private theorem record?_of_perform {output : Output} {key : Bytes} {collection : Collection}
    {after : Session} (opened : session.writer.output = some output)
    (good : request.key.bytes = .ok key) (done : request.perform session = .ok collection after) :
    request.record? session = some (key, collection.value) := by
  obtain ⟨collected, made⟩ := collect_of_perform opened good done
  simp [record?, good, made]

/-- What an append writes, whole or in part, stands under a name that is not reserved, and fits. -/
private theorem ordinary_of_record? {output : Output} {record : Bytes × Bytes}
    (opened : session.writer.output = some output) (gathered : request.record? session = some record)
    (inRange : ∀ fault after, request.perform session ≠ .error (.outOfRange fault) after) :
    ∃ records, Ordinary records ∧ named records = [record] := by
  obtain ⟨_, _, good, -, -⟩ := collect_of_record? gathered
  obtain ⟨name, -, plain, key⟩ := Key.bytes_eq_ok good
  have fit : Fits record.1 record.2 := by
    by_contra unfit
    obtain ⟨fault, after, refused⟩ := perform_of_unfit opened gathered unfit
    exact inRange fault after refused
  rw [key] at fit
  refine ⟨[(name, record.2)], ?_, ?_⟩
  · exact List.forall_mem_singleton.2 ⟨plain, fit⟩
  · simp [named, ← key]

end Append

namespace Call

private theorem written_named (call : Call) (session : Session) :
    ∃ records, Ordinary records ∧ named records = call.written session := by
  have none_written : ∃ records, Ordinary records ∧ named records = [] := ⟨[], nofun, rfl⟩
  cases opened : session.writer.output with
  | none =>
    rw [written_of_closed opened]
    exact none_written
  | some output =>
    cases call with
    | close | limit => exact none_written
    | append request =>
      cases good : request.key.bytes with
      | error fault => simpa [written, Append.written, good] using none_written
      | ok key =>
        cases done : request.perform session with
        | error fault after => simpa [written, Append.written, good, done] using none_written
        | ok collection after =>
          have single : written (append request) session = [(key, collection.value)] := by
            simp [written, Append.written, good, done]
          rw [single]
          refine Append.ordinary_of_record? opened (Append.record?_of_perform opened good done) ?_
          intro fault after'
          rw [done]
          rintro ⟨⟩

private theorem torn_named (call : Call) (session : Session) :
    ∃ records, Ordinary records ∧ named records = call.torn session := by
  have none_torn : ∃ records, Ordinary records ∧ named records = [] := ⟨[], nofun, rfl⟩
  cases opened : session.writer.output with
  | none =>
    rw [torn_of_closed opened]
    exact none_torn
  | some output =>
    cases call with
    | close | limit => exact none_torn
    | append request =>
      cases gathered : request.record? session with
      | none => simpa [torn, Append.torn, gathered] using none_torn
      | some record =>
        cases broke : request.perform session with
        | ok collection after => simpa [torn, Append.torn, gathered, broke] using none_torn
        | error fault after =>
          cases fault with
          | tornRecord path refusal =>
            have single : torn (append request) session = [record] := by
              simp [torn, Append.torn, gathered, broke]
            rw [single]
            refine Append.ordinary_of_record? opened gathered ?_
            intro fault after'
            rw [broke]
            rintro ⟨⟩
          | _ => simpa [torn, Append.torn, gathered, broke] using none_torn

private theorem ordinary_append {front back : List (Bytes × Bytes)}
    (h : ∃ records, Ordinary records ∧ named records = front)
    (h' : ∃ records, Ordinary records ∧ named records = back) :
    ∃ records, Ordinary records ∧ named records = front ++ back := by
  obtain ⟨records, ordinary, rfl⟩ := h
  obtain ⟨records', ordinary', rfl⟩ := h'
  exact ⟨records ++ records', List.forall_mem_append.2 ⟨ordinary, ordinary'⟩, by simp [named]⟩

private theorem writtenAll_named (calls : List Call) (session : Session) :
    ∃ records, Ordinary records ∧ named records = writtenAll calls session := by
  induction calls generalizing session with
  | nil => exact ⟨[], nofun, rfl⟩
  | cons call calls ih => exact ordinary_append (written_named call session) (ih _)

private theorem tornAll_named (calls : List Call) (session : Session) :
    ∃ records, Ordinary records ∧ named records = tornAll calls session := by
  induction calls generalizing session with
  | nil => exact ⟨[], nofun, rfl⟩
  | cons call calls ih => exact ordinary_append (torn_named call session) (ih _)

end Call

/-- Wherever the archive is cut that calls leave, the cut is found when it is read, and costs the
record it falls into. -/
def CutsDetected (file : Nat) (identity : String) (calls : List Call) (session : Session) : Prop :=
  ∃ written torn rest,
    named written = Call.writtenAll calls session ∧ named torn = Call.tornAll calls session ∧
    Rest (named torn) rest (Call.afterAll calls session) ∧
    (Call.afterAll calls session).archived file =
      recordsBytes (named (describing identity ++ written)) ++ rest ∧
    ∀ archive count, count ≤ ((Call.afterAll calls session).archived file).length →
      Detects archive (((Call.afterAll calls session).archived file).take count) count
        (describing identity ++ (written ++ torn))

/-- What is left behind the whole records is the front part of the one that broke off. -/
private theorem Rest.isFront {torn : List (Bytes × Bytes)} {rest : Bytes} {session : Session}
    (h : Rest torn rest session) : rest <+: recordsBytes torn := by
  cases h with
  | whole => exact List.nil_prefix
  | torn begun short closed => simpa using begun

/-- Wherever an archive is cut that a writer left, whatever was asked of the writer, the cut is
found. -/
theorem cuts_detected_of_start {process : Process} {conditions : Conditions} {path : Path}
    {identity : String} {trace made : Session.Trace} {writer : Writer}
    (started : Session.start process conditions path identity trace = .ok writer made) :
    ∃ output, writer.output = some output ∧ ∀ calls,
      Call.Undisturbed (FileTree.SameNode output.file) calls ⟨made.tree, writer, made.journal⟩ →
      CutsDetected output.file identity calls ⟨made.tree, writer, made.journal⟩ := by
  obtain ⟨_, _, _, output, _, _, opened, rfl, _, _, fits, keeps⟩ := Session.start_eq_ok started
  refine ⟨output, opened, fun calls spared => ?_⟩
  generalize (⟨made.tree, writer, made.journal⟩ : Session) = session at keeps spared ⊢
  obtain ⟨rest, behind, keeps'⟩ := Call.afterAll_keeps calls keeps spared
  obtain ⟨written, ordinary, names⟩ := Call.writtenAll_named calls session
  obtain ⟨torn, ordinary', names'⟩ := Call.tornAll_named calls session
  rw [← names'] at behind
  have stored : (Call.afterAll calls session).archived output.file =
      recordsBytes (named (describing identity ++ written)) ++ rest := by
    rw [keeps'.archived_eq, ← names, ← named_describing]
    simp [named]
  refine ⟨written, torn, rest, names, names', behind, stored, fun archive count enough => ?_⟩
  have front : (Call.afterAll calls session).archived output.file <+:
      recordsBytes (named (describing identity ++ (written ++ torn))) := by
    have split : recordsBytes (named (describing identity ++ (written ++ torn))) =
        recordsBytes (named (describing identity ++ written)) ++ recordsBytes (named torn) := by
      simp [named]
    rw [stored, split, List.prefix_append_right_inj]
    exact behind.isFront
  have same : ((Call.afterAll calls session).archived output.file).take count =
      (recordsBytes (named (describing identity ++ (written ++ torn)))).take count := by
    rw [List.prefix_iff_eq_take.1 front, List.take_take, Nat.min_eq_left enough]
  rw [same]
  apply detects_of_take archive (List.forall_mem_append.2 ⟨ordinary, ordinary'⟩)
  · exact fits_describing fits
  · exact reserved_describing identity
  · exact versions_describing identity
  · exact Nat.le_trans enough front.length_le

/-- An archive with a whole record and a torn one, cut anywhere. -/
theorem cuts_detected_in_empty : ∃ (output : Output) (made : Session.Trace) (writer : Writer),
    Session.start {} { room := some 80 } ⟨"", ["a.log"]⟩ "app" { tree := .empty } =
      .ok writer made ∧ writer.output = some output ∧
    CutsDetected output.file "app" [.append (appendNamed "c"), .limit (some 3) false,
      .append (appendNamed "d"), .close] ⟨made.tree, writer, made.journal⟩ := by
  obtain ⟨writer, made, started⟩ := start_in_empty
  obtain ⟨output, opened, detected⟩ := cuts_detected_of_start started
  refine ⟨output, made, writer, started, opened,
    detected _ (Call.undisturbed_of_calm (.refl _) _ ?_)⟩
  intro request among
  simp only [List.mem_cons, Call.append.injEq, reduceCtorEq, List.not_mem_nil,
    or_false, false_or] at among
  rcases among with rfl | rfl <;> exact .quiet

end ContainerLogs.Archive
