import ContainerLogs.Proofs.Archive.Parsing

/-!
Reads of a value piece by piece. As long as a read asks for something, it brings what comes next of
the value, and the end of the archive is reported only where bytes of the value are missing. A read
that asks for nothing is the exception: it is told that the archive ended, wherever it stands.
-/
namespace ContainerLogs.Archive.Reader

open Session (Fits)

/-- Reads of one value, for at most so many bytes each. -/
def pulls (number : Nat) (demands : List Nat) : List Use :=
  demands.map fun demand => .read ⟨number, some demand⟩

/-- How a value is read that is all there, once so much was asked for. -/
structure ServesWhole (number : Nat) (value : Bytes) (handed : Reader) (demands : List Nat) :
    Prop where
  brought : brought number (pulls number demands) handed = value.take demands.sum
  remaining : (afterAll (pulls number demands) handed).values[number]? =
    some ⟨value.length, value.length - demands.sum⟩
  piece : ∀ demand, (demand = 0 → value.length ≤ demands.sum) → ∃ after,
    (⟨number, some demand⟩ : Read).run (afterAll (pulls number demands) handed) =
        (.piece ((value.drop demands.sum).take demand), after) ∧
      after.values[number]? = some ⟨value.length,
        value.length - demands.sum - min demand (value.length - demands.sum)⟩
  /-- A read for nothing is refused before the end, though no byte is missing. -/
  emptyRead : demands.sum < value.length → ∃ after,
    (⟨number, some 0⟩ : Read).run (afterAll (pulls number demands) handed) =
        (.failed (.valueEnded (value.length - demands.sum) value.length), after) ∧
      after.values[number]? = some ⟨value.length, value.length - demands.sum⟩

/-- How a value is read of which only the first bytes are there, once so much was asked for. -/
structure ServesPart (number : Nat) (header : Header) (present : Bytes) (handed : Reader)
    (demands : List Nat) : Prop where
  brought : brought number (pulls number demands) handed = present.take demands.sum
  piece : ∀ demand, 0 < demand → demands.sum < present.length → ∃ after,
    (⟨number, some demand⟩ : Read).run (afterAll (pulls number demands) handed) =
      (.piece ((present.drop demands.sum).take demand), after)
  ended : present.length ≤ demands.sum → ∀ demand, ∃ after,
    (⟨number, some demand⟩ : Read).run (afterAll (pulls number demands) handed) =
      (.failed (cutFault header present), after)

/-- What the next step comes to behind the last whole record. -/
def EndsWith (reader : Reader) : Tail → Prop
  | .clean => ∃ after, next? reader = .ok none after
  | .broken fault => ∃ after, next? reader = .error fault after
  | .cut header present =>
      if isReserved header.name then ∃ after, next? reader = .error (cutFault header present) after
      else ∃ number handed, next? reader = .ok (some (⟨some header.name⟩, number)) handed ∧
        ∀ demands, ServesPart number header present handed demands

/-- A reader hands out these records in order, each to be read piece by piece until the reader goes
on, and then comes to the tail. -/
def Supplies (tail : Tail) : List (String × Bytes) → Reader → Prop
  | [], reader => EndsWith reader tail
  | (name, value) :: records, reader => ∃ number handed,
      next? reader = .ok (some (⟨some name⟩, number)) handed ∧
      ∀ demands, ServesWhole number value handed demands ∧
        Supplies tail records (afterAll (pulls number demands) handed)

variable {archive : String} {bytes : Bytes} {reader : Reader} {number length missing : Nat}
  {unread : Bytes}

/-- A read brings as much as it asks for of what is there, and nothing else is taken, whether it
fails or not. -/
private theorem InValue.pull_takes (h : InValue archive number length unread missing bytes reader)
    (demand : Nat) : ∃ answer after,
    (⟨number, some demand⟩ : Read).run reader = (answer, after) ∧
      answer.bytes = unread.take demand ∧
      InValue archive number length (unread.drop demand) missing bytes after := by
  by_cases asks : 0 < demand
  · by_cases cut : missing = 0
    · subst cut
      obtain ⟨after, served, stands⟩ := h.pull asks
      exact ⟨_, after, served, rfl, stands⟩
    · rcases h.pull_cut cut asks with ⟨after, -, served, stands⟩ | ⟨after, rfl, failed, stands⟩
      · exact ⟨_, after, served, rfl, stands⟩
      · refine ⟨_, after, failed, ?_, ?_⟩
        · rw [List.take_nil]
          rfl
        · rw [List.drop_nil]
          exact stands
  · obtain rfl : demand = 0 := by omega
    by_cases finished : unread.length + missing = 0
    · have spent : ∀ value, reader.values[number]? = some value → value.remaining = 0 := by
        intro value found
        rw [h.value] at found
        rw [← Option.some.inj found]
        exact finished
      exact ⟨_, reader, read_of_spent _ spent, rfl, h⟩
    · obtain ⟨after, refused, stands⟩ := h.pull_zero finished
      exact ⟨_, after, refused, rfl, stands⟩

/-- Reads bring, all together, as much as they ask for of what is there. -/
private theorem InValue.pulls_take (h : InValue archive number length unread missing bytes reader)
    (demands : List Nat) :
    brought number (pulls number demands) reader = unread.take demands.sum ∧
      InValue archive number length (unread.drop demands.sum) missing bytes
        (afterAll (pulls number demands) reader) := by
  induction demands generalizing reader unread with
  | nil => exact ⟨rfl, h⟩
  | cons demand demands ih =>
    -- A read that is refused took nothing, so the others go on from where it stood.
    obtain ⟨answer, after, served, given, stands⟩ := h.pull_takes demand
    obtain ⟨others, stands'⟩ := ih stands
    rw [List.drop_drop] at stands'
    simp only [pulls, List.map_cons, Reader.brought, afterAll, Use.gain, Use.run, served, if_pos,
      List.sum_cons]
    constructor
    · change answer.bytes ++ Reader.brought number (pulls number demands) after = _
      rw [others, given, ← List.take_add]
    · exact stands'

private theorem InValue.servesWhole {value : Bytes}
    (h : InValue archive number value.length value 0 bytes reader) (demands : List Nat) :
    ServesWhole number value reader demands := by
  obtain ⟨taken, stands⟩ := h.pulls_take demands
  have left : (value.drop demands.sum).length = value.length - demands.sum := List.length_drop
  have remaining := stands.value
  rw [left, Nat.add_zero] at remaining
  refine ⟨taken, remaining, ?_, ?_⟩
  · intro demand asks
    by_cases positive : 0 < demand
    · obtain ⟨after, served, stands'⟩ := stands.pull positive
      have remaining' := stands'.value
      rw [List.length_drop, left, Nat.add_zero] at remaining'
      refine ⟨after, served, remaining'.trans ?_⟩
      congr 2
      omega
    · obtain rfl : demand = 0 := by omega
      have finished : value.length - demands.sum = 0 := Nat.sub_eq_zero_of_le (asks rfl)
      rw [finished] at remaining ⊢
      refine ⟨_, read_of_spent _ ?_, ?_⟩
      · intro found same
        rw [remaining] at same
        rw [← Option.some.inj same]
      · exact remaining
  · intro before
    obtain ⟨after, refused, stands'⟩ := stands.pull_zero (by rw [left]; omega)
    have remaining' := stands'.value
    rw [left, Nat.add_zero] at refused remaining'
    exact ⟨after, refused, remaining'⟩

private theorem InValue.servesPart {header : Header} {present : Bytes}
    (short : present.length < header.length)
    (h : InValue archive number header.length present (header.length - present.length) [] reader)
    (demands : List Nat) : ServesPart number header present reader demands := by
  have cut : header.length - present.length ≠ 0 := by omega
  obtain ⟨taken, stands⟩ := h.pulls_take demands
  refine ⟨taken, ?_, ?_⟩
  · intro demand asks before
    rcases stands.pull_cut cut asks with ⟨after, -, served, -⟩ | ⟨-, none_left, -⟩
    · exact ⟨after, served⟩
    · rw [List.drop_eq_nil_iff] at none_left
      omega
  · intro past demand
    have none_left : present.drop demands.sum = [] := List.drop_eq_nil_of_le past
    rw [none_left] at stands
    by_cases asks : 0 < demand
    · rcases stands.pull_cut cut asks with ⟨-, some_left, -⟩ | ⟨after, -, failed, -⟩
      · exact absurd rfl some_left
      · exact ⟨after, failed⟩
    · obtain rfl : demand = 0 := by omega
      obtain ⟨after, failed, -⟩ := stands.pull_zero (by simpa using cut)
      rw [List.length_nil, Nat.zero_add] at failed
      exact ⟨after, failed⟩

private theorem supplies_congr {other : Reader} {tail : Tail} {records : List (String × Bytes)}
    (same : next? reader = next? other) (h : Supplies tail records other) :
    Supplies tail records reader := by
  cases records with
  | nil =>
    cases tail <;> simp only [Supplies, EndsWith, same] at h ⊢ <;> exact h
  | cons record records =>
    simp only [Supplies, same] at h ⊢
    exact h

private theorem AtRecord.endsWith_cut {header : Header} {present : Bytes} (inRange : header.InRange)
    (short : present.length < header.length)
    (h : AtRecord archive (header.bytes ++ present) reader) :
    EndsWith reader (.cut header present) := by
  cases reserved : isReserved header.name with
  | true =>
    obtain ⟨after, failed, -⟩ := h.next?_of_cut inRange reserved short
    simp only [EndsWith, reserved, if_true]
    exact ⟨after, failed⟩
  | false =>
    have split : header.bytes ++ present = header.bytes ++ (present ++ []) := by simp
    have whole : header.length = present.length + (header.length - present.length) := by omega
    rw [split] at h
    obtain ⟨handed, next, stands, -⟩ := h.next?_of_container inRange reserved whole fun _ => rfl
    simp only [EndsWith, reserved, Bool.false_eq_true, if_false]
    exact ⟨_, handed, next, stands.servesPart short⟩

/-- A reader at the start of a record supplies what the grammar finds from there on. -/
private theorem supplies_of_parsed {records : List (String × Bytes)} {tail : Tail}
    (parsed : Parsed archive bytes records tail) (h : Whole archive bytes reader) :
    Supplies tail (containers records) reader := by
  induction parsed generalizing reader with
  | clean =>
    obtain ⟨beyond, stands, same⟩ := h.next?_eq
    obtain ⟨after, nothing, -⟩ := stands.next?_at_end
    exact ⟨after, same.trans nothing⟩
  | broken malformed =>
    obtain ⟨beyond, stands, same⟩ := h.next?_eq
    obtain ⟨-, after, failed, -⟩ := stands.next?_of_malformed malformed
    exact ⟨after, same.trans failed⟩
  | cut inRange short =>
    obtain ⟨beyond, stands, same⟩ := h.next?_eq
    exact supplies_congr same (stands.endsWith_cut inRange short)
  | @record name value bytes records tail fit parsed ih =>
    obtain ⟨beyond, stands, same⟩ := h.next?_eq
    have inRange := Header.inRange_of_fits fit
    rw [Header.recordBytes_eq, List.append_assoc] at stands
    cases reserved : isReserved name with
    | true =>
      obtain ⟨behind, stands', same', -⟩ := stands.next?_of_reserved inRange reserved rfl
      have skipped : containers ((name, value) :: records) = containers records := by
        simp [containers, reserved]
      rw [skipped]
      exact supplies_congr (same.trans same') (ih (.atRecord stands'))
    | false =>
      -- However much of the value was read, the next step goes to the record behind it.
      obtain ⟨handed, next, stands', -⟩ := stands.next?_of_container inRange reserved
        (show value.length = value.length + 0 from rfl) (absurd rfl)
      have kept : containers ((name, value) :: records) = (name, value) :: containers records := by
        simp [containers, reserved]
      rw [kept]
      refine ⟨_, handed, same.trans next, ?_⟩
      intro demands
      constructor
      · exact stands'.servesWhole demands
      · obtain ⟨-, stands''⟩ := stands'.pulls_take demands
        exact ih (.inValue stands'')

private theorem supplies_of_opened {records : List (String × Bytes)} {tail : Tail}
    (parsed : Parsed archive bytes records tail) (opened : ofBytes archive bytes = .ok reader) :
    Supplies tail (containers records) reader := by
  obtain ⟨_, stands, others⟩ := atRecord_of_parsed parsed opened
  have supplies := supplies_of_parsed others (.atRecord stands)
  rwa [containers_body] at supplies

/-- On any bytes that can be opened, each value that is all there is read to its last byte, piece by
piece and in order, by reads that ask for something, and only a value that the archive ends in is
reported as cut short, once all of it that is there was read. -/
theorem present_values_supplied (opened : ofBytes archive bytes = .ok reader) :
    ∃ records tail, Parsed archive bytes records tail ∧
      Supplies tail (containers records) reader := by
  obtain ⟨records, tail, parsed⟩ := exists_parsed archive bytes
  exact ⟨records, tail, parsed, supplies_of_opened parsed opened⟩

/-- A value of two bytes, one of none, and one of which only the first byte is there. -/
theorem supplied_before_cut :
    let header : Header := ⟨"e", 4⟩
    let bytes := recordsBytes (named [("c", [104, 105]), ("d", [])]) ++ (header.bytes ++ [33])
    ∃ reader, ofBytes "a.log" bytes = .ok reader ∧
      Supplies (.cut header [33]) [("c", [104, 105]), ("d", [])] reader := by
  intro header bytes
  have parsed : Parsed "a.log" bytes [("c", [104, 105]), ("d", [])] (.cut header [33]) := by
    have cut : Parsed "a.log" (header.bytes ++ [33]) [] (.cut header [33]) :=
      .cut ⟨by decide, by decide⟩ (by decide)
    have fit : Fits (Text.Utf8.encode "c") [104, 105] := ⟨by decide, by decide⟩
    have fit' : Fits (Text.Utf8.encode "d") [] := ⟨by decide, by decide⟩
    exact Parsed.record fit (Parsed.record fit' cut)
  obtain ⟨reader, opened⟩ := exists_reader_of_parsed parsed (by decide)
  obtain ⟨records, tail, parsed', supplies⟩ := present_values_supplied opened
  obtain ⟨rfl, rfl⟩ := parsed.unique parsed'
  exact ⟨reader, opened, supplies⟩

/-- A whole value of two bytes: all of it can be read, but a read for nothing reports that the archive
ended. -/
theorem empty_read_reports_end :
    ∃ reader number handed whole refused,
      ofBytes "a.log" (recordsBytes (named [("c", [104, 105])])) = .ok reader ∧
      next? reader = .ok (some (⟨some "c"⟩, number)) handed ∧
      (⟨number, some 2⟩ : Read).run handed = (.piece [104, 105], whole) ∧
      (⟨number, some 0⟩ : Read).run handed = (.failed (.valueEnded 2 2), refused) := by
  have parsed : Parsed "a.log" (recordsBytes (named [("c", [104, 105])])) [("c", [104, 105])]
      .clean := by
    apply Parsed.of_records
    unfold Session.Fits
    decide
  obtain ⟨reader, opened⟩ := exists_reader_of_parsed parsed (by decide)
  obtain ⟨number, handed, next, serves⟩ := supplies_of_opened parsed opened
  obtain ⟨serves, -⟩ := serves []
  obtain ⟨whole, served, -⟩ := serves.piece 2 (by decide)
  obtain ⟨refused, failed, -⟩ := serves.emptyRead (by decide)
  exact ⟨reader, number, handed, whole, refused, opened, next, served, failed⟩

end ContainerLogs.Archive.Reader
