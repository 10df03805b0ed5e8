import ContainerLogs.Proofs.Archive.Delivery
import ContainerLogs.Proofs.Text.WellFormed

/-!
The grammar of archives. An archive is a sequence of records, behind which it ends cleanly, within a
value, or at a place where no header can be read. Every byte string is such an archive in one way,
and the headers that are read are those of the grammar.
-/
namespace ContainerLogs.Archive

open Running
open Session (Fits)

/-- What is wrong with the bytes at a place where a header should stand, and the fault that tells of
it. -/
inductive Malformed (archive : String) : Bytes → ReadFault → Prop where
  | shortKeyLength {bytes : Bytes} (some_left : bytes ≠ []) (short : bytes.length < Wire.intWidth) :
      Malformed archive bytes (.streamEnded (Wire.intWidth - bytes.length) 0)
  | negativeKeyLength {n : Int} {tail : Bytes} (inRange : Wire.fits Wire.intWidth n = true)
      (negative : n < 0) : Malformed archive (Wire.int n ++ tail) (.negativeKey n archive)
  | shortKey {length : Nat} {tail : Bytes} (inRange : Wire.fits Wire.intWidth length = true)
      (short : tail.length < length) :
      Malformed archive (Wire.int length ++ tail) (.streamEnded length tail.length)
  | undecodableKey {key tail : Bytes} (inRange : Wire.fits Wire.intWidth key.length = true)
      (noText : ∀ name, key ≠ Text.Utf8.encode name) :
      Malformed archive (Wire.counted key ++ tail) (.undecodableKey archive)
  | shortValueLength {name : String} {tail : Bytes}
      (inRange : Wire.fits Wire.intWidth (Text.Utf8.encode name).length = true)
      (short : tail.length < Wire.longWidth) :
      Malformed archive (Wire.counted (Text.Utf8.encode name) ++ tail)
        (.streamEnded Wire.longWidth tail.length)
  | negativeValueLength {name : String} {n : Int} {tail : Bytes}
      (inRange : Wire.fits Wire.intWidth (Text.Utf8.encode name).length = true)
      (inRange' : Wire.fits Wire.longWidth n = true) (negative : n < 0) :
      Malformed archive (Wire.counted (Text.Utf8.encode name) ++ (Wire.long n ++ tail))
        (.negativeValue n archive)

/-- What stands behind the whole records of an archive. -/
inductive Tail where
  | clean
  /-- The header of a record, and less of its value than the header says. -/
  | cut (header : Header) (present : Bytes)
  /-- Bytes that no header can be read from. -/
  | broken (fault : ReadFault)

/-- An archive by its records and its tail. -/
inductive Parsed (archive : String) : Bytes → List (String × Bytes) → Tail → Prop where
  | clean : Parsed archive [] [] .clean
  | cut {header : Header} {present : Bytes} (inRange : header.InRange)
      (short : present.length < header.length) :
      Parsed archive (header.bytes ++ present) [] (.cut header present)
  | broken {bytes : Bytes} {fault : ReadFault} (malformed : Malformed archive bytes fault) :
      Parsed archive bytes [] (.broken fault)
  | record {name : String} {value bytes : Bytes} {records : List (String × Bytes)} {tail : Tail}
      (fit : Fits (Text.Utf8.encode name) value) (others : Parsed archive bytes records tail) :
      Parsed archive (recordBytes (Text.Utf8.encode name) value ++ bytes)
        ((name, value) :: records) tail

namespace Malformed

variable {archive : String} {bytes : Bytes} {fault : ReadFault}

theorem ne_nil (h : Malformed archive bytes fault) : bytes ≠ [] := by
  intro nothing
  have length := congrArg List.length nothing
  cases h with
  | shortKeyLength some_left => exact some_left nothing
  | negativeKeyLength | shortKey | undecodableKey | shortValueLength | negativeValueLength =>
    simp at length

theorem isCorrupt (h : Malformed archive bytes fault) : fault.isCorrupt = true := by
  cases h <;> rfl

end Malformed

theorem Header.bytes_ne_nil (header : Header) : header.bytes ≠ [] := by
  intro nothing
  have length : header.bytes.length = 0 := by rw [nothing, List.length_nil]
  rw [bytes, List.length_append, Wire.length_long] at length
  omega

/-- Behind a length that is not negative, a key, a name and another length may be missing or wrong;
otherwise there is a header. -/
private theorem malformed_or_header (archive : String) {bytes : Bytes} (some_left : bytes ≠ []) :
    (∃ fault, Malformed archive bytes fault) ∨
      ∃ (header : Header) (present : Bytes), header.InRange ∧ bytes = header.bytes ++ present := by
  by_cases short : bytes.length < Wire.intWidth
  · exact .inl ⟨_, .shortKeyLength some_left short⟩
  obtain ⟨n, inRange, split⟩ := Wire.exists_signed (by decide) (Nat.le_of_not_lt short)
  rw [split]
  generalize bytes.drop Wire.intWidth = keyed
  cases n with
  | negSucc n => exact .inl ⟨_, .negativeKeyLength inRange (Int.negSucc_lt_zero n)⟩
  | ofNat length =>
    rcases Wire.short_or_counted inRange keyed with short | ⟨key, sized, inRange', counted⟩
    · exact .inl ⟨_, .shortKey inRange short⟩
    change Wire.signed Wire.intWidth (.ofNat length) ++ keyed = _ at counted
    rw [counted]
    cases decoded : Text.Utf8.decode? key with
    | none => exact .inl ⟨_, .undecodableKey inRange' (Text.Utf8.decode?_eq_none.1 decoded)⟩
    | some name =>
      obtain rfl := Text.Utf8.decode?_eq_some.1 decoded
      by_cases short : sized.length < Wire.longWidth
      · exact .inl ⟨_, .shortValueLength inRange' short⟩
      obtain ⟨m, inRange'', split⟩ := Wire.exists_signed (by decide) (Nat.le_of_not_lt short)
      rw [split]
      cases m with
      | negSucc m =>
        exact .inl ⟨_, .negativeValueLength inRange' inRange'' (Int.negSucc_lt_zero m)⟩
      | ofNat length =>
        refine .inr ⟨⟨name, length⟩, sized.drop Wire.longWidth, ⟨inRange', inRange''⟩, ?_⟩
        rw [Header.bytes, List.append_assoc]
        rfl

/-- Every byte string is an archive. -/
theorem exists_parsed (archive : String) (bytes : Bytes) :
    ∃ records tail, Parsed archive bytes records tail := by
  induction count : bytes.length using Nat.strongRecOn generalizing bytes with
  | ind count ih =>
    subst count
    by_cases some_left : bytes = []
    · exact ⟨[], .clean, some_left ▸ .clean⟩
    rcases malformed_or_header archive some_left with ⟨fault, malformed⟩ | ⟨header, present, inRange,
      rfl⟩
    · exact ⟨[], .broken fault, .broken malformed⟩
    by_cases short : present.length < header.length
    · exact ⟨[], .cut header present, .cut inRange short⟩
    have length : (present.take header.length).length = header.length :=
      List.length_take_of_le (Nat.le_of_not_lt short)
    have whole : header.bytes ++ present = recordBytes (Text.Utf8.encode header.name)
        (present.take header.length) ++ present.drop header.length := by
      rw [Header.recordBytes_eq, length, List.append_assoc, List.take_append_drop]
    have shorter : (present.drop header.length).length < (header.bytes ++ present).length := by
      have := List.length_pos_iff.2 header.bytes_ne_nil
      rw [List.length_drop, List.length_append]
      omega
    obtain ⟨records, tail, parsed⟩ := ih _ shorter _ rfl
    refine ⟨(header.name, present.take header.length) :: records, tail, ?_⟩
    rw [whole]
    refine .record ?_ parsed
    rw [Fits, length]
    exact inRange

namespace Header

variable {archive : String} {source : Source}

/-- Where the grammar finds no header, reading one fails, and takes all there is if that is too
little. -/
theorem read?_of_malformed {fault : ReadFault} (h : Malformed archive source.rest fault) :
    ∃ after, read? archive source = .error fault after ∧
      (fault.isPremature = true → after.rest = []) := by
  generalize known : source.rest = bytes at h
  cases h with
  | shortKeyLength some_left short =>
    subst known
    obtain ⟨after, failed, nothing⟩ := Source.readIntOrEnd_of_short some_left short
    exact ⟨after, bind_of_error failed _, fun _ => nothing⟩
  | @negativeKeyLength n tail inRange negative =>
    obtain ⟨after, read, -⟩ := Feed.readIntOrEnd_of_left inRange (show Feed.left source = _ from known)
    obtain ⟨n, rfl⟩ := Int.eq_negSucc_of_lt_zero negative
    refine ⟨after, ?_, by simp [ReadFault.isPremature]⟩
    unfold read?
    rw [bind_of_ok read]
    rfl
  | @shortKey length tail inRange short =>
    obtain ⟨between, start, rest⟩ :=
      Feed.readIntOrEnd_of_left inRange (show Feed.left source = _ from known)
    obtain ⟨after, failed, nothing, -⟩ :=
      Feed.readExact_of_short Source.willing trivial (show (Feed.left between).length < _ by rwa [rest])
    rw [rest] at failed
    refine ⟨after, ?_, fun _ => nothing⟩
    rw [read?_of_start start]
    exact bind_of_error failed _
  | @undecodableKey key tail inRange noText =>
    rw [Wire.counted, List.append_assoc] at known
    obtain ⟨between, start, rest⟩ :=
      Feed.readIntOrEnd_of_left inRange (show Feed.left source = _ from known)
    obtain ⟨after, exact, -⟩ := Feed.readExact_of_left rest
    have undecoded : decodeName archive key after = .error (.undecodableKey archive) after := by
      rw [decodeName, Text.Utf8.decode?_eq_none.2 noText]
    refine ⟨after, ?_, by simp [ReadFault.isPremature]⟩
    rw [read?_of_start start, bind_of_ok exact]
    exact bind_of_error undecoded _
  | @shortValueLength name tail inRange short =>
    obtain ⟨between, rest, start⟩ := read?_of_name archive inRange known
    obtain ⟨after, failed, nothing, -⟩ :=
      Feed.readLong_of_short Source.willing trivial (show (Feed.left between).length < _ by rwa [rest])
    rw [rest] at failed
    refine ⟨after, ?_, fun _ => nothing⟩
    rw [start]
    exact bind_of_error failed _
  | @negativeValueLength name n tail inRange inRange' negative =>
    obtain ⟨between, rest, start⟩ := read?_of_name archive inRange known
    obtain ⟨after, read, -⟩ := Feed.readLong_of_left inRange' rest
    obtain ⟨n, rfl⟩ := Int.eq_negSucc_of_lt_zero negative
    refine ⟨after, ?_, by simp [ReadFault.isPremature]⟩
    rw [start, bind_of_ok read]
    rfl

/-- A header and what stands behind it are told apart in one way. -/
private theorem bytes_append_inj {header header' : Header} {present present' : Bytes}
    (inRange : header.InRange) (inRange' : header'.InRange)
    (same : header.bytes ++ present = header'.bytes ++ present') :
    header = header' ∧ present = present' := by
  obtain ⟨after, read, rest⟩ := read?_of_bytes "" inRange
    (show Source.rest { rest := header.bytes ++ present } = _ from rfl)
  obtain ⟨after', read', rest'⟩ := read?_of_bytes "" inRange'
    (show Source.rest { rest := header.bytes ++ present } = _ from same)
  rw [read] at read'
  cases read'
  exact ⟨rfl, rest.symm.trans rest'⟩

end Header

namespace Malformed

variable {archive : String} {bytes : Bytes} {fault fault' : ReadFault}

private theorem unique (h : Malformed archive bytes fault) (h' : Malformed archive bytes fault') :
    fault = fault' := by
  obtain ⟨after, failed, -⟩ :=
    Header.read?_of_malformed (show Malformed archive (Source.rest { rest := bytes }) _ from h)
  obtain ⟨after', failed', -⟩ :=
    Header.read?_of_malformed (show Malformed archive (Source.rest { rest := bytes }) _ from h')
  rw [failed] at failed'
  cases failed'
  rfl

private theorem no_header {header : Header} {present : Bytes} (inRange : header.InRange) :
    ¬ Malformed archive (header.bytes ++ present) fault := by
  intro h
  obtain ⟨after, failed, -⟩ := Header.read?_of_malformed
    (show Malformed archive (Source.rest { rest := header.bytes ++ present }) _ from h)
  obtain ⟨after', read, -⟩ := Header.read?_of_bytes archive inRange
    (show Source.rest { rest := header.bytes ++ present } = _ from rfl)
  rw [failed] at read
  cases read

end Malformed

namespace Parsed

variable {archive : String} {bytes : Bytes} {records records' : List (String × Bytes)}
  {tail tail' : Tail}

/-- Records of which all lengths fit make up a whole archive. -/
theorem of_records (archive : String) {records : List (String × Bytes)}
    (fits : ∀ record ∈ records, Fits (Text.Utf8.encode record.1) record.2) :
    Parsed archive (recordsBytes (named records)) records .clean := by
  induction records with
  | nil => exact .clean
  | cons record records ih =>
    obtain ⟨fit, others⟩ := List.forall_mem_cons.1 fits
    rw [named, List.map_cons, recordsBytes_cons]
    exact .record fit (ih others)

private theorem of_nil (h : Parsed archive [] records tail) : records = [] ∧ tail = .clean := by
  generalize known : ([] : Bytes) = bytes at h
  cases h with
  | clean => exact ⟨rfl, rfl⟩
  | @cut header present inRange short =>
    exact absurd (List.append_eq_nil_iff.1 known.symm).1 header.bytes_ne_nil
  | broken malformed => exact absurd known.symm malformed.ne_nil
  | @record name value others records tail fit parsed =>
    rw [Header.recordBytes_eq, List.append_assoc] at known
    exact absurd (List.append_eq_nil_iff.1 known.symm).1 (Header.bytes_ne_nil _)

private theorem of_malformed {fault : ReadFault} (malformed : Malformed archive bytes fault)
    (h : Parsed archive bytes records tail) : records = [] ∧ tail = .broken fault := by
  cases h with
  | clean => exact absurd rfl malformed.ne_nil
  | cut inRange => exact absurd malformed (Malformed.no_header inRange)
  | broken malformed' => rw [malformed.unique malformed']; exact ⟨rfl, rfl⟩
  | record fit =>
    rw [Header.recordBytes_eq, List.append_assoc] at malformed
    exact absurd malformed (Malformed.no_header (Header.inRange_of_fits fit))

/-- Behind a header, the bytes either hold the value that it announces, and go on, or end in it. -/
private theorem of_header {header : Header} {present : Bytes} (inRange : header.InRange)
    (h : Parsed archive (header.bytes ++ present) records tail) :
    (present.length < header.length ∧ records = [] ∧ tail = .cut header present) ∨
      ∃ value bytes others, present = value ++ bytes ∧ value.length = header.length ∧
        records = (header.name, value) :: others ∧ Parsed archive bytes others tail := by
  generalize known : header.bytes ++ present = bytes at h
  cases h with
  | clean => exact absurd (List.append_eq_nil_iff.1 known).1 header.bytes_ne_nil
  | cut inRange' short =>
    obtain ⟨rfl, rfl⟩ := Header.bytes_append_inj inRange inRange' known
    exact .inl ⟨short, rfl, rfl⟩
  | broken malformed =>
    subst known
    exact absurd malformed (Malformed.no_header inRange)
  | @record name value bytes others tail fit parsed =>
    rw [Header.recordBytes_eq, List.append_assoc] at known
    obtain ⟨rfl, rfl⟩ := Header.bytes_append_inj inRange (Header.inRange_of_fits fit) known
    exact .inr ⟨value, bytes, others, rfl, rfl, rfl, parsed⟩

/-- A byte string is an archive in one way only. -/
theorem unique (h : Parsed archive bytes records tail) (h' : Parsed archive bytes records' tail') :
    records = records' ∧ tail = tail' := by
  induction h generalizing records' with
  | clean =>
    obtain ⟨rfl, rfl⟩ := h'.of_nil
    exact ⟨rfl, rfl⟩
  | broken malformed =>
    obtain ⟨rfl, rfl⟩ := h'.of_malformed malformed
    exact ⟨rfl, rfl⟩
  | cut inRange short =>
    rcases h'.of_header inRange with ⟨-, rfl, rfl⟩ | ⟨value, bytes, others, rfl, length, -, -⟩
    · exact ⟨rfl, rfl⟩
    · rw [List.length_append] at short
      omega
  | @record name value bytes records tail fit parsed ih =>
    rw [Header.recordBytes_eq, List.append_assoc] at h'
    rcases h'.of_header (Header.inRange_of_fits fit) with ⟨short, -⟩ | ⟨value', bytes', others, split, length, rfl, parsed'⟩
    · rw [List.length_append] at short
      exact absurd short (Nat.not_lt.2 (Nat.le_add_right _ _))
    · obtain ⟨rfl, rfl⟩ := List.append_inj split length.symm
      obtain ⟨rfl, rfl⟩ := ih parsed'
      exact ⟨rfl, rfl⟩

end Parsed

end ContainerLogs.Archive
