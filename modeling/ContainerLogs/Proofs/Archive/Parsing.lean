import ContainerLogs.Proofs.Archive.Progress

/-!
Reading follows the grammar. On any bytes, a reader takes in the leading reserved records, hands out
the container records in front of the first place that is malformed or incomplete, and nothing but
corrupt bytes makes it fail.
-/
namespace ContainerLogs.Archive

open Session (Fits)

/-- The records that describe an archive: the reserved ones in front. -/
def leading (records : List (String × Bytes)) : List (String × Bytes) :=
  records.takeWhile fun record => isReserved record.1

/-- The records from the first one on that speaks of a container. -/
def body (records : List (String × Bytes)) : List (String × Bytes) :=
  records.dropWhile fun record => isReserved record.1

/-- The records that speak of containers, wherever they stand. -/
def containers (records : List (String × Bytes)) : List (String × Bytes) :=
  records.filter fun record => !isReserved record.1

/-- The last value that stands under a name. -/
def lastUnder (name : String) (records : List (String × Bytes)) : Option Bytes :=
  (records.filter fun record => record.1 = name).getLast?.map (·.2)

/-- What keeps an archive from being opened that consists of reserved records and this tail. -/
def Tail.refusal? : Tail → Option ReadFault
  | clean => none
  | cut header present =>
      if isReserved header.name then some (.streamEnded header.length present.length) else none
  | broken fault => some fault

/-- What keeps an archive from being opened: a malformed version among the leading records, or the
tail, if there are no others. -/
def openingFault? (archive : String) (records : List (String × Bytes)) (tail : Tail) :
    Option ReadFault :=
  if ∃ record ∈ leading records, record.1 = versionName ∧ record.2.length ≠ Wire.intWidth then
    some (.malformedVersion archive)
  else if ∀ record ∈ records, isReserved record.1 = true then tail.refusal?
  else none

namespace Reader

/-- No further step finds a record, and none fails. -/
def Finished (reader : Reader) : Prop :=
  ∀ uses, ∀ exchange ∈ exchanges uses reader, exchange.1 = .next → exchange.2 = .nothing

/-- The fault of a value that the archive ends in. -/
def cutFault (header : Header) (present : Bytes) : ReadFault :=
  .valueEnded (header.length - present.length) header.length

/-- A value that is cut off, of which some bytes were taken: they are in front of what is there, and
everything but an empty read comes to the fault in the end. -/
structure CutShort (number : Nat) (header : Header) (present taken : Bytes) (reader : Reader) :
    Prop where
  taken : taken <+: present
  all : ∃ after, (⟨number, none⟩ : Read).run reader = (.failed (cutFault header present), after)
  piece : ∀ demand, 0 < demand →
    (∃ piece after, piece ≠ [] ∧ (⟨number, some demand⟩ : Read).run reader = (.piece piece, after)) ∨
    ∃ after, (⟨number, some demand⟩ : Read).run reader = (.failed (cutFault header present), after)
  next : ∃ after, next? reader = .error (cutFault header present) after

/-- The next step fails. Where the bytes ended too early, no later one finds a record. -/
def Breaks (fault : ReadFault) (reader : Reader) : Prop :=
  ∃ after, next? reader = .error fault after ∧ (fault.isPremature = true → Silent after)

/-- The value that the archive ends in is handed out, and is cut short whatever is read of it. -/
def HandsCut (header : Header) (present : Bytes) (reader : Reader) : Prop :=
  ∃ number handed, next? reader = .ok (some (⟨some header.name⟩, number)) handed ∧
    handed.values[number]? = some ⟨header.length, header.length⟩ ∧
    (∀ reads : List Read, CutShort number header present
      (brought number (reads.map .read) handed) (afterAll (reads.map .read) handed)) ∧
    Silent handed

/-- What a reader comes to behind the last whole record. -/
def Ends (reader : Reader) : Tail → Prop
  | .clean => ∃ after, next? reader = .ok none after ∧ Finished after
  | .broken fault => Breaks fault reader
  | .cut header present =>
      if isReserved header.name then Breaks (cutFault header present) reader
      else HandsCut header present reader

/-- A reader hands out these records in order and then comes to the tail. Whatever is read of the
values in between, it is the front part of the current one, which the rest of it completes. -/
def Yields (tail : Tail) : List (String × Bytes) → Reader → Prop
  | [], reader => Ends reader tail
  | (name, value) :: records, reader => ∃ number handed,
      next? reader = .ok (some (⟨some name⟩, number)) handed ∧
      handed.values[number]? = some ⟨value.length, value.length⟩ ∧
      ∀ reads : List Read,
        (∃ rest after, brought number (reads.map .read) handed ++ rest = value ∧
          (⟨number, none⟩ : Read).run (afterAll (reads.map .read) handed) = (.piece rest, after)) ∧
        Yields tail records (afterAll (reads.map .read) handed)

/-- An archive is read as the grammar says: what it consists of decides whether it is opened, what
describes it, and what is handed out. -/
def Follows (archive : String) (bytes : Bytes) (records : List (String × Bytes)) (tail : Tail) :
    Prop :=
  match openingFault? archive records tail with
  | some fault => ofBytes archive bytes = .error fault ∧ fault.isCorrupt = true
  | none => ∃ reader, ofBytes archive bytes = .ok reader ∧
      reader.version = (lastUnder versionName (leading records)).map Wire.signedOf ∧
      reader.owner = (lastUnder ownerName (leading records)).map Text.Utf8.decodeLenient ∧
      Yields tail (containers records) reader ∧ FailsCorrupt reader

variable {archive : String} {bytes : Bytes} {reader : Reader}

/-- What is left of the current value is all there, and bytes come behind it. -/
inductive Whole (archive : String) (bytes : Bytes) (reader : Reader) : Prop where
  | atRecord (h : AtRecord archive bytes reader)
  | inValue {number length : Nat} {unread : Bytes}
      (h : InValue archive number length unread 0 bytes reader)

theorem Whole.next?_eq (h : Whole archive bytes reader) : ∃ beyond,
    AtRecord archive bytes beyond ∧ next? reader = next? beyond := by
  cases h with
  | atRecord h => exact ⟨reader, h, rfl⟩
  | inValue h =>
    obtain ⟨beyond, stands, same, -⟩ := h.next?_eq
    exact ⟨beyond, stands, same⟩

private theorem Whole.read (h : Whole archive bytes reader) (read : Read) :
    Whole archive bytes (read.run reader).2 := by
  cases h with
  | atRecord h =>
    rw [h.read]
    exact .atRecord h
  | @inValue number length unread h =>
    by_cases own : read.number = number
    · subst own
      obtain ⟨unread', -, stands⟩ := h.read read.demand
      exact .inValue stands
    · rw [h.read_other own]
      exact .inValue h

private theorem Whole.finished (h : Whole archive [] reader) : Finished reader := by
  intro uses
  induction uses generalizing reader with
  | nil => nofun
  | cons use uses ih =>
    rw [exchanges, List.forall_mem_cons]
    cases use with
    | next =>
      obtain ⟨beyond, stands, same⟩ := h.next?_eq
      obtain ⟨after, nothing, stands', -⟩ := stands.next?_at_end
      have run : Use.next.run reader = (.nothing, after) := by
        simp only [Use.run, same, nothing, Answer.ofNext]
      rw [run]
      exact ⟨fun _ => rfl, ih (.atRecord stands')⟩
    | read read =>
      refine ⟨?_, ih (h.read read)⟩
      rintro ⟨⟩

/-- What reads bring of the current value is its front part; of a whole value, what they do not bring
is left. -/
private theorem InValue.reads {number length missing : Nat} {unread : Bytes}
    (h : InValue archive number length unread missing bytes reader) (reads : List Read) :
    ∃ unread', InValue archive number length unread' missing bytes
        (afterAll (reads.map .read) reader) ∧
      brought number (reads.map .read) reader <+: unread ∧
      (missing = 0 → unread = brought number (reads.map .read) reader ++ unread') := by
  induction reads generalizing reader unread with
  | nil => exact ⟨unread, h, List.nil_prefix, fun _ => rfl⟩
  | cons read reads ih =>
    simp only [List.map_cons, afterAll, brought, Use.run, Use.gain]
    by_cases own : read.number = number
    · subst own
      obtain ⟨unread', served, stands⟩ := h.read read.demand
      generalize read.run reader = result at served stands
      obtain ⟨answer, after⟩ := result
      obtain ⟨unread'', stands', front, whole⟩ := ih stands
      refine ⟨unread'', stands', ?_, ?_⟩
      · rw [if_pos rfl]
        cases served with
        | some split =>
          rw [split]
          exact (List.prefix_append_right_inj _).2 front
        | emptyRead => exact front
        | cutShort =>
          rw [List.prefix_nil.1 front]
          exact List.nil_prefix
      · intro present
        rw [if_pos rfl]
        cases served with
        | some split =>
          rw [split, whole present, List.append_assoc]
          rfl
        | emptyRead => exact whole present
        | cutShort cut => exact absurd present cut
    · rw [h.read_other own, if_neg own]
      exact ih h

private theorem yields_congr {other : Reader} {tail : Tail} {records : List (String × Bytes)}
    (same : next? reader = next? other) (h : Yields tail records other) :
    Yields tail records reader := by
  cases records with
  | nil =>
    cases tail <;> simp only [Yields, Ends, Breaks, HandsCut, same] at h ⊢ <;> exact h
  | cons record records =>
    simp only [Yields, same] at h ⊢
    exact h

private theorem InValue.cutShort {header : Header} {present : Bytes} {number : Nat}
    (short : present.length < header.length)
    (h : InValue archive number header.length present (header.length - present.length) [] reader)
    (reads : List Read) : CutShort number header present (brought number (reads.map .read) reader)
      (afterAll (reads.map .read) reader) := by
  have cut : header.length - present.length ≠ 0 := by omega
  obtain ⟨unread, stands, front, -⟩ := h.reads reads
  refine ⟨front, ?_, fun demand positive => ?_, ?_⟩
  · obtain ⟨after, failed, -⟩ := stands.readAll_cut cut
    exact ⟨after, failed⟩
  · rcases stands.pull_cut cut positive with ⟨after, some_left, served, -⟩ | ⟨after, -, failed, -⟩
    · refine .inl ⟨_, after, ?_, served⟩
      rw [ne_eq, List.take_eq_nil_iff, not_or]
      exact ⟨Nat.ne_of_gt positive, some_left⟩
    · exact .inr ⟨after, failed⟩
  · obtain ⟨after, failed, -⟩ := stands.next?_of_cut cut
    exact ⟨after, failed⟩

private theorem AtRecord.handsCut {header : Header} {present : Bytes} (inRange : header.InRange)
    (short : present.length < header.length) (plain : isReserved header.name = false)
    (h : AtRecord archive (header.bytes ++ present) reader) : HandsCut header present reader := by
  have split : header.bytes ++ present = header.bytes ++ (present ++ []) := by simp
  have length : header.length = present.length + (header.length - present.length) := by omega
  rw [split] at h
  obtain ⟨handed, next, stands, -⟩ := h.next?_of_container inRange plain length fun _ => rfl
  refine ⟨_, handed, next, ?_, stands.cutShort short, (Standing.inValue stands).silent⟩
  rw [stands.value, ← length]

/-- A reader at the start of an archive hands out what the grammar finds in it. -/
private theorem yields_of_parsed {records : List (String × Bytes)} {tail : Tail}
    (parsed : Parsed archive bytes records tail) (h : Whole archive bytes reader) :
    Yields tail (containers records) reader := by
  induction parsed generalizing reader with
  | clean =>
    obtain ⟨beyond, stands, same⟩ := h.next?_eq
    obtain ⟨after, nothing, stands', -⟩ := stands.next?_at_end
    exact ⟨after, same.trans nothing, (Whole.atRecord stands').finished⟩
  | broken malformed =>
    obtain ⟨beyond, stands, same⟩ := h.next?_eq
    obtain ⟨bytes', after, failed, stands', nothing⟩ := stands.next?_of_malformed malformed
    refine ⟨after, same.trans failed, fun premature => ?_⟩
    obtain rfl := nothing premature
    exact (Standing.atRecord stands').silent
  | @cut header present inRange short =>
    obtain ⟨beyond, stands, same⟩ := h.next?_eq
    apply yields_congr same
    cases reserved : isReserved header.name with
    | true =>
      obtain ⟨after, failed, stands'⟩ := stands.next?_of_cut inRange reserved short
      have broken : Breaks (cutFault header present) beyond :=
        ⟨after, failed, fun _ => (Standing.atRecord stands').silent⟩
      simpa [containers, Yields, Ends, reserved] using broken
    | false =>
      have handed := stands.handsCut inRange short reserved
      simpa [containers, Yields, Ends, reserved] using handed
  | @record name value bytes records tail fit parsed ih =>
    obtain ⟨beyond, stands, same⟩ := h.next?_eq
    have inRange := Header.inRange_of_fits fit
    rw [Header.recordBytes_eq, List.append_assoc] at stands
    cases reserved : isReserved name with
    | true =>
      obtain ⟨behind, stands', same', -⟩ := stands.next?_of_reserved inRange reserved rfl
      have skipped : containers ((name, value) :: records) = containers records := by
        simp [containers, reserved]
      rw [skipped]
      exact yields_congr (same.trans same') (ih (.atRecord stands'))
    | false =>
      obtain ⟨handed, next, stands', -⟩ := stands.next?_of_container inRange reserved
        (show value.length = value.length + 0 from rfl) (absurd rfl)
      have kept : containers ((name, value) :: records) = (name, value) :: containers records := by
        simp [containers, reserved]
      rw [kept]
      refine ⟨_, handed, same.trans next, stands'.value, fun reads => ?_⟩
      obtain ⟨unread, stands'', -, whole⟩ := stands'.reads reads
      obtain ⟨after, served, -⟩ := stands''.readAll
      exact ⟨⟨unread, after, (whole rfl).symm, served⟩, ih (.inValue stands'')⟩

/-- How the opening of an archive ends, by what it consists of. -/
inductive Opening (archive : String) (records : List (String × Bytes)) (tail : Tail)
    (reader : Reader) : Except ReadFault Reader → Prop where
  | refused {fault : ReadFault} (found : openingFault? archive records tail = some fault) :
      Opening archive records tail reader (.error fault)
  | opened {source : Source} {version : Option Int} {owner : Option String}
      (fine : openingFault? archive records tail = none)
      (others : Parsed archive source.rest (body records) tail)
      (version_eq : version =
        ((lastUnder versionName (leading records)).map Wire.signedOf).or reader.version)
      (owner_eq : owner = ((lastUnder ownerName (leading records)).map Text.Utf8.decodeLenient).or
        reader.owner) :
      Opening archive records tail reader (.ok { reader with source, version, owner })

private theorem lastUnder_cons (name : String) (record : String × Bytes)
    (records : List (String × Bytes)) :
    lastUnder name (record :: records) =
      (lastUnder name records).or (if record.1 = name then some record.2 else none) := by
  unfold lastUnder
  by_cases same : record.1 = name
  · rw [if_pos same, List.filter_cons_of_pos (by simpa using same), List.getLast?_cons]
    cases (records.filter fun record => record.1 = name).getLast? <;> rfl
  · rw [if_neg same, List.filter_cons_of_neg (by simpa using same), Option.or_none]

section Leading

variable {name : String} {value : Bytes} {records : List (String × Bytes)} {tail : Tail}

private theorem leading_cons_of_reserved (reserved : isReserved name = true) :
    leading ((name, value) :: records) = (name, value) :: leading records := by
  simp [leading, reserved]

private theorem leading_cons_of_plain (plain : isReserved name = false) :
    leading ((name, value) :: records) = [] := by
  simp [leading, plain]

private theorem body_cons_of_reserved (reserved : isReserved name = true) :
    body ((name, value) :: records) = body records := by
  simp [body, reserved]

private theorem body_cons_of_plain (plain : isReserved name = false) :
    body ((name, value) :: records) = (name, value) :: records := by
  simp [body, plain]

private theorem openingFault?_of_plain (plain : isReserved name = false) :
    openingFault? archive ((name, value) :: records) tail = none := by
  simp [openingFault?, leading_cons_of_plain plain, plain]

/-- A leading reserved record counts only by its own version. -/
private theorem openingFault?_of_reserved (reserved : isReserved name = true)
    (fine : ¬ (name = versionName ∧ value.length ≠ Wire.intWidth)) :
    openingFault? archive ((name, value) :: records) tail = openingFault? archive records tail := by
  unfold openingFault?
  rw [leading_cons_of_reserved reserved]
  simp only [List.mem_cons, or_and_right, exists_or, exists_eq_left, fine, false_or,
    forall_eq_or_imp, reserved, true_and]

private theorem openingFault?_of_badVersion (bad : value.length ≠ Wire.intWidth) :
    openingFault? archive ((versionName, value) :: records) tail =
      some (.malformedVersion archive) := by
  unfold openingFault?
  rw [leading_cons_of_reserved (by decide)]
  exact if_pos ⟨_, List.mem_cons_self, rfl, bad⟩

private theorem refusal?_isCorrupt {fault : ReadFault} (parsed : Parsed archive bytes records tail)
    (refused : tail.refusal? = some fault) : fault.isCorrupt = true := by
  induction parsed with
  | clean => cases refused
  | cut =>
    simp only [Tail.refusal?, Option.ite_none_right_eq_some] at refused
    rw [← Option.some.inj refused.2]
    rfl
  | broken malformed =>
    cases refused
    exact malformed.isCorrupt
  | record _ _ ih => exact ih refused

private theorem openingFault?_isCorrupt {fault : ReadFault}
    (parsed : Parsed archive bytes records tail)
    (found : openingFault? archive records tail = some fault) : fault.isCorrupt = true := by
  unfold openingFault? at found
  split at found
  · cases found
    rfl
  · split at found
    · exact refusal?_isCorrupt parsed found
    · cases found

end Leading

private theorem describe_version_of_bad {length : Nat} {value : Bytes}
    (bad : value.length ≠ Wire.intWidth) :
    describe ⟨versionName, length⟩ value reader = .error (.malformedVersion reader.path) := by
  simp [describe, bad]

/-- A reader that has taken in a reserved record. -/
def described (name : String) (value : Bytes) (reader : Reader) : Reader :=
  { reader with
    version := ((if name = versionName then some value else none).map Wire.signedOf).or
      reader.version
    owner := ((if name = ownerName then some value else none).map Text.Utf8.decodeLenient).or
      reader.owner }

private theorem describe_of_reserved {name : String} {value : Bytes} (length : Nat)
    (reserved : isReserved name = true)
    (fine : ¬ (name = versionName ∧ value.length ≠ Wire.intWidth)) :
    describe ⟨name, length⟩ value reader = .ok (described name value reader) := by
  unfold described
  by_cases version : name = versionName
  · have width : value.length = Wire.intWidth := by simpa [version] using fine
    simp [describe, version, width, versionName, ownerName]
  · have owner : name = ownerName := by simpa [isReserved, version] using reserved
    have apart : ¬ ownerName = versionName := by decide
    simp [describe, owner, apart]

/-- The opening of what stands behind a reserved record is the opening of both. -/
private theorem Opening.of_described {name : String} {value : Bytes}
    {records : List (String × Bytes)} {tail : Tail} {source : Source}
    {result : Except ReadFault Reader} (reserved : isReserved name = true)
    (fine : ¬ (name = versionName ∧ value.length ≠ Wire.intWidth))
    (others : Opening archive records tail { described name value reader with source } result) :
    Opening archive ((name, value) :: records) tail reader result := by
  have same : openingFault? archive ((name, value) :: records) tail =
      openingFault? archive records tail := openingFault?_of_reserved reserved fine
  cases others with
  | refused found => exact .refused (same.trans found)
  | @opened source version owner found others version_eq owner_eq =>
    refine .opened (same.trans found) ?_ ?_ ?_
    · rw [body_cons_of_reserved reserved]
      exact others
    · rw [version_eq, leading_cons_of_reserved reserved, lastUnder_cons, Option.map_or,
        Option.or_assoc]
      rfl
    · rw [owner_eq, leading_cons_of_reserved reserved, lastUnder_cons, Option.map_or,
        Option.or_assoc]
      rfl

/-- Opening takes in the leading reserved records, and stops before the first other record. -/
theorem opening_of_parsed {records : List (String × Bytes)} {tail : Tail}
    (parsed : Parsed archive bytes records tail) (path : reader.path = archive)
    (rest : reader.source.rest = bytes) :
    Opening archive records tail reader (takePreamble reader) := by
  induction parsed generalizing reader with
  | clean =>
    subst path
    obtain ⟨source, read, rest'⟩ := Header.read?_at_end reader.path rest
    rw [takePreamble_eq]
    simp only [read]
    have fine : openingFault? reader.path [] .clean = none := rfl
    refine .opened fine ?_ rfl rfl
    rw [rest']
    exact .clean
  | broken malformed =>
    subst path
    obtain ⟨source, failed, -⟩ := Header.read?_of_malformed (rest ▸ malformed)
    rw [takePreamble_eq]
    simp only [failed]
    exact .refused rfl
  | @cut header present inRange short =>
    subst path
    obtain ⟨source, read, rest'⟩ := Header.read?_of_bytes reader.path inRange rest
    rw [takePreamble_eq]
    simp only [read]
    cases reserved : isReserved header.name with
    | true =>
      obtain ⟨after, failed, -⟩ := Feed.readExact_of_short Source.willing trivial
        (show (Feed.left source).length < header.length by
          change source.rest.length < _
          rwa [rest'])
      simp only [if_true, failed]
      refine .refused ?_
      rw [show Feed.left source = present from rest']
      simp [openingFault?, leading, Tail.refusal?, reserved]
    | false =>
      simp only [Bool.false_eq_true, if_false]
      have fine : openingFault? reader.path [] (.cut header present) = none := by
        simp [openingFault?, leading, Tail.refusal?, reserved]
      refine .opened fine ?_ rfl rfl
      rw [Source.rest_rewound, rest]
      exact .cut inRange short
  | @record name value bytes records tail fit parsed ih =>
    subst path
    obtain ⟨source, read, rest'⟩ := Header.read?_of_rest reader.path fit rest
    rw [takePreamble_eq]
    simp only [read]
    cases reserved : isReserved name with
    | true =>
      obtain ⟨behind, exact, rest''⟩ := Feed.readExact_of_left (show Feed.left source = _ from rest')
      simp only [if_true, exact]
      by_cases fine : name = versionName ∧ value.length ≠ Wire.intWidth
      · obtain ⟨rfl, bad⟩ := fine
        simp only [describe_version_of_bad bad]
        exact .refused (openingFault?_of_badVersion bad)
      · simp only [describe_of_reserved _ reserved fine]
        exact .of_described reserved fine (ih rfl rest'')
    | false =>
      simp only [Bool.false_eq_true, if_false]
      refine .opened (openingFault?_of_plain reserved) ?_ ?_ ?_
      · rw [Source.rest_rewound, rest, body_cons_of_plain reserved]
        exact .record fit parsed
      · rw [leading_cons_of_plain reserved]
        rfl
      · rw [leading_cons_of_plain reserved]
        rfl

theorem containers_body (records : List (String × Bytes)) :
    containers (body records) = containers records := by
  induction records with
  | nil => rfl
  | cons record records ih =>
    cases reserved : isReserved record.1 with
    | true => simpa [containers, body, reserved] using ih
    | false => simp [containers, body, reserved]

theorem standing_of_ofBytes (opened : ofBytes archive bytes = .ok reader) :
    ∃ bytes', Standing archive bytes' reader := by
  obtain ⟨records, tail, parsed⟩ := exists_parsed archive bytes
  have opening : Opening archive records tail _ (ofBytes archive bytes) :=
    opening_of_parsed parsed rfl rfl
  rw [opened] at opening
  cases opening with
  | opened => exact ⟨_, .atRecord ⟨rfl, rfl, rfl, rfl, by simp⟩⟩

/-- An archive that was opened is read from behind the leading reserved records on. -/
theorem atRecord_of_parsed {records : List (String × Bytes)} {tail : Tail}
    (parsed : Parsed archive bytes records tail) (opened : ofBytes archive bytes = .ok reader) :
    ∃ bytes', AtRecord archive bytes' reader ∧ Parsed archive bytes' (body records) tail := by
  have opening : Opening archive records tail _ (ofBytes archive bytes) :=
    opening_of_parsed parsed rfl rfl
  rw [opened] at opening
  cases opening with
  | opened _ others => exact ⟨_, ⟨rfl, rfl, rfl, rfl, by simp⟩, others⟩

theorem follows_of_parsed {records : List (String × Bytes)} {tail : Tail}
    (parsed : Parsed archive bytes records tail) : Follows archive bytes records tail := by
  have opening : Opening archive records tail _ (ofBytes archive bytes) :=
    opening_of_parsed parsed rfl rfl
  unfold Follows
  generalize ofBytes archive bytes = result at opening
  cases opening with
  | refused found =>
    rw [found]
    exact ⟨rfl, openingFault?_isCorrupt parsed found⟩
  | @opened source version owner fine others version_eq owner_eq =>
    rw [fine]
    have stands : AtRecord archive source.rest
        { path := archive, source, version, owner } := ⟨rfl, rfl, rfl, rfl, by simp⟩
    have yields := yields_of_parsed others (.atRecord stands)
    rw [containers_body] at yields
    refine ⟨_, rfl, ?_, ?_, yields, (Standing.atRecord stands).failsCorrupt⟩
    · rw [version_eq, Option.or_none]
    · rw [owner_eq, Option.or_none]

theorem exists_reader_of_parsed {records : List (String × Bytes)} {tail : Tail}
    (parsed : Parsed archive bytes records tail)
    (fine : openingFault? archive records tail = none) :
    ∃ reader, ofBytes archive bytes = .ok reader := by
  have follows := follows_of_parsed parsed
  rw [Follows, fine] at follows
  obtain ⟨reader, opened, -⟩ := follows
  exact ⟨reader, opened⟩

/-- Every byte string has one parse, and it is read as this parse says: what stands in front of its
first malformed or incomplete place is handed out, and corrupt bytes are all that fails. -/
theorem follows_grammar (archive : String) (bytes : Bytes) :
    ∃ records tail, Parsed archive bytes records tail ∧
      (∀ records' tail', Parsed archive bytes records' tail' → records' = records ∧ tail' = tail) ∧
      Follows archive bytes records tail := by
  obtain ⟨records, tail, parsed⟩ := exists_parsed archive bytes
  refine ⟨records, tail, parsed, ?_, follows_of_parsed parsed⟩
  intro records' tail' parsed'
  exact parsed'.unique parsed

end Reader

end ContainerLogs.Archive
