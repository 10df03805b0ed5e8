import ContainerLogs.Archive.Key
import ContainerLogs.Collection.Collector
import ContainerLogs.Proofs.Identifier
import ContainerLogs.Proofs.Running
import ContainerLogs.Proofs.Text.Blank
import ContainerLogs.Proofs.Text.Numeral
import ContainerLogs.Proofs.Text.Utf8
import Mathlib.Data.Option.Basic

/-!
The text forms of identifiers are read back. An identifier is written as a word and its numbers
between underscores, which no number holds; so the text tells every number, whether there is an epoch
or not. It is read back exactly if no number has a sign, and two containers have neither a key nor a
directory in common.
-/
namespace ContainerLogs

namespace Text

private theorem isBlank_of_isNumeric {c : Char} (numeric : IsNumeric c) : isBlank c = false := by
  rcases numeric with digit | rfl
  · obtain ⟨low, high⟩ := Char.isDigit_iff_toNat.1 digit
    have zero : '0'.toNat = 48 := rfl
    have nine : '9'.toNat = 57 := rfl
    simp only [isBlank, decide_eq_false_iff_not]
    omega
  · decide

/-- No underscore stands in a written number. -/
private theorem underscore_not_mem_padded (width : Nat) (n : Int) : '_' ∉ paddedChars width n := by
  intro among
  rcases isNumeric_of_mem_padded among with digit | sign
  · exact absurd digit (by decide)
  · exact absurd sign (by decide)

private theorem paddedChars_ne_nil (width : Nat) (n : Int) : paddedChars width n ≠ [] := by
  cases n with
  | ofNat n => exact padLeft_ne_nil width n
  | negSucc n => exact List.cons_ne_nil _ _

/-- A text that begins with a word and ends with a number has no blanks at its ends. -/
theorem trimChars_of_word {word : List Char} {c : Char} (starts : word.head? = some c)
    (kept : isBlank c = false) (between : List Char) (width : Nat) (n : Int) :
    trimChars (word ++ (between ++ paddedChars width n)) =
      word ++ (between ++ paddedChars width n) := by
  apply trimBy_eq_self
  · intro first begins
    rw [List.head?_append, starts] at begins
    cases begins
    exact kept
  · intro last ends
    have digit := List.getLast?_eq_some_getLast (paddedChars_ne_nil width n)
    rw [List.getLast?_append, List.getLast?_append, digit] at ends
    cases ends
    exact isBlank_of_isNumeric (isNumeric_of_mem_padded (List.mem_of_getLast? digit))

/-- A field that is read as a number. -/
def FieldReads (field : List Char) (n : Int) : Prop :=
  ∃ digits, digitRun? field = some digits ∧ fieldNumber digits = .ok n

private theorem FieldReads.unique {field : List Char} {n m : Int} (one : FieldReads field n)
    (other : FieldReads field m) : n = m := by
  obtain ⟨digits, run, read⟩ := one
  obtain ⟨digits', run', read'⟩ := other
  rw [run] at run'
  cases run'
  rw [read] at read'
  cases read'
  rfl

/-- What is read from a field has no sign and can be read again. -/
private theorem FieldReads.natural {field : List Char} {n : Int} (reads : FieldReads field n) :
    0 ≤ n ∧ IsShort n := by
  obtain ⟨digits, run, read⟩ := reads
  unfold fieldNumber valueWithin at read
  by_cases few : digits.length ≤ maxDigits
  · simp only [if_pos few] at read
    cases read
    exact ⟨Int.natCast_nonneg _, isShort_of_digits (lt_of_mem_digitRun? run) few⟩
  · simp only [if_neg few] at read
    cases read

private theorem fieldReads_padded (width : Nat) {n : Int} (fits : width ≤ maxDigits)
    (short : IsShort n) (natural : 0 ≤ n) : FieldReads (paddedChars width n) n := by
  cases n with
  | negSucc n => omega
  | ofNat n =>
    obtain ⟨digits, run, value, length⟩ := digitRun?_padLeft width n
    refine ⟨digits, run, ?_⟩
    have few : digits.length ≤ maxDigits := by
      rw [length]
      exact Nat.max_le.2 ⟨fits, short⟩
    simp [fieldNumber, valueWithin, few, value]

/-- A written number is read exactly if it has no sign, and then as itself. -/
private theorem fieldReads_padded_iff (width : Nat) {n m : Int} (fits : width ≤ maxDigits)
    (short : IsShort n) : FieldReads (paddedChars width n) m ↔ 0 ≤ n ∧ m = n := by
  constructor
  · intro reads
    have natural : 0 ≤ n := by
      by_contra negative
      obtain ⟨digits, run, -⟩ := reads
      rw [digitRun?_of_negative width (by omega)] at run
      cases run
    exact ⟨natural, reads.unique (fieldReads_padded width fits short natural)⟩
  · rintro ⟨natural, rfl⟩
    exact fieldReads_padded width fits short natural

end Text

open Text (IsShort FieldReads decimalChars paddedChars trimChars)

namespace ApplicationId

def numbers (id : ApplicationId) : List Int := [id.clusterTimestamp, id.number]

/-- What stands between the underscores. -/
def parts (id : ApplicationId) : List (List Char) :=
  ["application".toList, decimalChars id.clusterTimestamp, paddedChars 4 id.number]

private theorem chars_eq (id : ApplicationId) : id.chars = ['_'].intercalate id.parts := by
  have word : "application_".toList = "application".toList ++ ['_'] := rfl
  unfold chars parts
  rw [word]
  simp only [List.intercalate_cons_cons, List.intercalate_singleton, List.append_assoc,
    List.cons_append, List.nil_append]

private theorem splitOn_chars (id : ApplicationId) : List.splitOn '_' id.chars = id.parts := by
  have word : '_' ∉ "application".toList := by decide
  have absent : ∀ part ∈ id.parts, '_' ∉ part := by
    simp only [parts, List.forall_mem_cons]
    exact ⟨word, Text.underscore_not_mem_padded 1 _, Text.underscore_not_mem_padded 4 _, nofun⟩
  rw [chars_eq]
  exact List.splitOn_intercalate _ absent (by simp [parts])

private theorem trimChars_chars (id : ApplicationId) : trimChars id.chars = id.chars := by
  have shape : id.chars = "application_".toList ++
      (decimalChars id.clusterTimestamp ++ ['_'] ++ paddedChars 4 id.number) := by
    unfold chars
    rw [List.append_assoc, List.append_assoc, List.singleton_append]
  rw [shape]
  exact Text.trimChars_of_word (c := 'a') rfl (by decide) _ 4 id.number

/-- An application identifier without signs is read back. -/
private theorem parse_text {id : ApplicationId} (short : ∀ n ∈ id.numbers, IsShort n)
    (natural : ∀ n ∈ id.numbers, 0 ≤ n) : parse id.text = .ok id := by
  simp only [numbers, List.forall_mem_cons, List.not_mem_nil, false_implies, implies_true,
    and_true] at short natural
  obtain ⟨stamp, stamped, stampRead⟩ :=
    Text.fieldReads_padded 1 (by decide) short.1 natural.1
  obtain ⟨count, counted, countRead⟩ :=
    Text.fieldReads_padded 4 (by decide) short.2 natural.2
  have fields : fields? id.text.toList = some (stamp, count) := by
    simp [fields?, text, trimChars_chars, splitOn_chars, parts, decimalChars, stamped, counted]
  simp [parse, fields, stampRead, countRead, bind, Except.bind, pure, Except.pure]

end ApplicationId

namespace ContainerId

def numbers (id : ContainerId) : List Int :=
  [id.application.clusterTimestamp, id.application.number, id.attempt, id.number] ++
    id.epoch.toList

def epochParts : Option Int → List (List Char)
  | none => []
  | some epoch => ['e' :: paddedChars 2 epoch]

/-- What stands between the underscores. -/
def parts (id : ContainerId) : List (List Char) :=
  "container".toList :: epochParts id.epoch ++
    [decimalChars id.application.clusterTimestamp, paddedChars 4 id.application.number,
      paddedChars 2 id.attempt, paddedChars 6 id.number]

private theorem chars_eq (id : ContainerId) : id.chars = ['_'].intercalate id.parts := by
  have word : "container_".toList = "container".toList ++ ['_'] := rfl
  unfold chars parts
  rw [word]
  cases id.epoch <;>
    simp only [epochChars, epochParts, List.intercalate_cons_cons, List.intercalate_singleton,
      List.append_assoc, List.cons_append, List.nil_append, List.append_nil]

private theorem splitOn_chars (id : ContainerId) : List.splitOn '_' id.chars = id.parts := by
  have word : '_' ∉ "container".toList := by decide
  have epoch : ∀ part ∈ epochParts id.epoch, '_' ∉ part := by
    cases id.epoch with
    | none => nofun
    | some epoch => simp [epochParts, Text.underscore_not_mem_padded]
  have absent : ∀ part ∈ id.parts, '_' ∉ part := by
    simp only [parts, List.forall_mem_append, List.forall_mem_cons]
    exact ⟨⟨word, epoch⟩, Text.underscore_not_mem_padded 1 _, Text.underscore_not_mem_padded 4 _,
      Text.underscore_not_mem_padded 2 _, Text.underscore_not_mem_padded 6 _, nofun⟩
  rw [chars_eq]
  exact List.splitOn_intercalate _ absent (by simp [parts])

private theorem trimChars_chars (id : ContainerId) : trimChars id.chars = id.chars := by
  have shape : id.chars = "container_".toList ++ (epochChars id.epoch ++
      decimalChars id.application.clusterTimestamp ++
      '_' :: paddedChars 4 id.application.number ++ '_' :: paddedChars 2 id.attempt ++ ['_'] ++
      paddedChars 6 id.number) := by
    unfold chars
    simp only [List.append_assoc, List.singleton_append]
  rw [shape]
  exact Text.trimChars_of_word (c := 'c') rfl (by decide) _ 6 id.number

/-- The text tells the identifier. -/
private theorem text_injective {id other : ContainerId} (same : id.text = other.text) :
    id = other := by
  have chars : id.chars = other.chars := String.ofList_inj.1 same
  have parts : id.parts = other.parts := by rw [← splitOn_chars, chars, splitOn_chars]
  obtain ⟨⟨stamp, application⟩, attempt, number, epoch⟩ := id
  obtain ⟨⟨stamp', application'⟩, attempt', number', epoch'⟩ := other
  -- The number of parts tells whether there is an epoch.
  cases epoch with
  | none =>
    cases epoch' with
    | none =>
      simp only [ContainerId.parts, epochParts, List.cons_append, List.nil_append, List.cons.injEq,
        and_true, true_and] at parts
      obtain ⟨stamps, applications, attempts, numbers⟩ := parts
      rw [Text.paddedChars_inj stamps, Text.paddedChars_inj applications,
        Text.paddedChars_inj attempts, Text.paddedChars_inj numbers]
    | some epoch' => exact absurd (congrArg List.length parts) (by simp [ContainerId.parts, epochParts])
  | some epoch =>
    cases epoch' with
    | none => exact absurd (congrArg List.length parts) (by simp [ContainerId.parts, epochParts])
    | some epoch' =>
      simp only [ContainerId.parts, epochParts, List.cons_append, List.nil_append, List.cons.injEq,
        and_true, true_and] at parts
      obtain ⟨epochs, stamps, applications, attempts, numbers⟩ := parts
      rw [Text.paddedChars_inj epochs, Text.paddedChars_inj stamps,
        Text.paddedChars_inj applications, Text.paddedChars_inj attempts,
        Text.paddedChars_inj numbers]

/-- The epoch, if there is a part for it, has an `e` before its digits. -/
def EpochRun : Option (List Nat) → List (List Char) → Prop
  | none, parts => parts = []
  | some digits, parts => ∃ field, parts = ['e' :: field] ∧ Text.digitRun? field = some digits

/-- The fields are the digit runs of these parts. -/
structure Fielded (fields : Fields) (epoch : List (List Char))
    (stamp application attempt number : List Char) : Prop where
  epoch : EpochRun fields.epoch epoch
  timestamp : Text.digitRun? stamp = some fields.timestamp
  application : Text.digitRun? application = some fields.application
  attempt : Text.digitRun? attempt = some fields.attempt
  number : Text.digitRun? number = some fields.number

/-- The fields of a text are read from its parts after the word. -/
theorem fields?_eq_some_iff {text : List Char} {fields : Fields} :
    fields? text = some fields ↔ ∃ epoch stamp application attempt number,
      List.splitOn '_' (trimChars text) =
        "container".toList :: epoch ++ [stamp, application, attempt, number] ∧
      Fielded fields epoch stamp application attempt number := by
  unfold fields?
  constructor
  · intro read
    split at read
    · rename_i word stamp application attempt number parts
      simp only [Option.bind_eq_bind, Option.bind_eq_some_iff, Option.guard_eq_some'] at read
      obtain ⟨_, rfl, stamped, stampRun, applied, applicationRun, attempted, attemptRun, counted,
        numberRun, made⟩ := read
      cases made
      exact ⟨[], stamp, application, attempt, number, parts,
        ⟨rfl, stampRun, applicationRun, attemptRun, numberRun⟩⟩
    · rename_i word epoch stamp application attempt number parts
      simp only [Option.bind_eq_bind, Option.bind_eq_some_iff, Option.guard_eq_some'] at read
      obtain ⟨_, rfl, dated, epochRun, stamped, stampRun, applied, applicationRun, attempted,
        attemptRun, counted, numberRun, made⟩ := read
      cases made
      exact ⟨['e' :: epoch], stamp, application, attempt, number, parts,
        ⟨⟨epoch, rfl, epochRun⟩, stampRun, applicationRun, attemptRun, numberRun⟩⟩
    · cases read
  · rintro ⟨epoch, stamp, application, attempt, number, parts, ⟨epochRun, stampRun, applicationRun,
      attemptRun, numberRun⟩⟩
    obtain ⟨epochDigits, stamped, applied, attempted, counted⟩ := fields
    rw [parts]
    cases epochDigits with
    | none =>
      obtain rfl : epoch = [] := epochRun
      simp only [List.cons_append, List.nil_append, Option.bind_eq_bind, Option.bind_eq_some_iff,
        Option.guard_eq_some']
      exact ⟨(), trivial, _, stampRun, _, applicationRun, _, attemptRun, _, numberRun, rfl⟩
    | some digits =>
      obtain ⟨field, rfl, epochRun⟩ := epochRun
      simp only [List.cons_append, List.nil_append, Option.bind_eq_bind, Option.bind_eq_some_iff,
        Option.guard_eq_some']
      exact ⟨(), trivial, _, epochRun, _, stampRun, _, applicationRun, _, attemptRun, _, numberRun, rfl⟩

/-- The epoch is read from the part for it, if there is one. -/
def EpochReads : Option Int → List (List Char) → Prop
  | none, parts => parts = []
  | some epoch, parts => ∃ field, parts = ['e' :: field] ∧ FieldReads field epoch

/-- The numbers of an identifier are read from these parts. -/
structure Spelled (id : ContainerId) (epoch : List (List Char))
    (stamp application attempt number : List Char) : Prop where
  epoch : EpochReads id.epoch epoch
  timestamp : FieldReads stamp id.application.clusterTimestamp
  application : FieldReads application id.application.number
  attempt : FieldReads attempt id.attempt
  number : FieldReads number id.number

private theorem epochReads_iff {epoch : Option Int} {parts : List (List Char)} :
    EpochReads epoch parts ↔
      ∃ digits, EpochRun digits parts ∧ digits.mapM fieldNumber = .ok epoch := by
  constructor
  · intro reads
    cases epoch with
    | none => exact ⟨none, reads, rfl⟩
    | some epoch =>
      obtain ⟨field, parts, digits, run, read⟩ := reads
      refine ⟨some digits, ⟨field, parts, run⟩, ?_⟩
      rw [Option.mapM_some, read]
      rfl
  · rintro ⟨_ | digits, run, read⟩
    · cases read
      exact run
    · obtain ⟨field, parts, run⟩ := run
      rw [Option.mapM_some] at read
      cases value : fieldNumber digits with
      | error fault =>
        rw [value] at read
        cases read
      | ok n =>
        rw [value] at read
        cases read
        exact ⟨field, parts, digits, run, value⟩

/-- A text is read as the identifier whose numbers its parts spell. -/
theorem parse_eq_ok_iff {text : String} {id : ContainerId} :
    parse text = .ok id ↔ ∃ epoch stamp application attempt number,
      List.splitOn '_' (trimChars text.toList) =
        "container".toList :: epoch ++ [stamp, application, attempt, number] ∧
      Spelled id epoch stamp application attempt number := by
  unfold parse
  constructor
  · intro read
    split at read
    · cases read
    · rename_i fields found
      obtain ⟨epoch, stamp, application, attempt, number, parts, fielded⟩ :=
        fields?_eq_some_iff.1 found
      simp only [Running.bind_eq_ok_iff] at read
      obtain ⟨_, stampRead, _, applicationRead, _, attemptRead, _, numberRead, _, epochRead, made⟩ :=
        read
      cases made
      exact ⟨epoch, stamp, application, attempt, number, parts,
        { epoch := epochReads_iff.2 ⟨_, fielded.epoch, epochRead⟩
          timestamp := ⟨_, fielded.timestamp, stampRead⟩
          application := ⟨_, fielded.application, applicationRead⟩
          attempt := ⟨_, fielded.attempt, attemptRead⟩
          number := ⟨_, fielded.number, numberRead⟩ }⟩
  · rintro ⟨epoch, stamp, application, attempt, number, parts, spelled⟩
    obtain ⟨stampDigits, stampRun, stampRead⟩ := spelled.timestamp
    obtain ⟨applicationDigits, applicationRun, applicationRead⟩ := spelled.application
    obtain ⟨attemptDigits, attemptRun, attemptRead⟩ := spelled.attempt
    obtain ⟨numberDigits, numberRun, numberRead⟩ := spelled.number
    obtain ⟨epochDigits, epochRun, epochRead⟩ := epochReads_iff.1 spelled.epoch
    have found : fields? text.toList =
        some ⟨epochDigits, stampDigits, applicationDigits, attemptDigits, numberDigits⟩ :=
      fields?_eq_some_iff.2 ⟨epoch, stamp, application, attempt, number, parts,
        ⟨epochRun, stampRun, applicationRun, attemptRun, numberRun⟩⟩
    simp only [found, Running.bind_eq_ok_iff]
    exact ⟨_, stampRead, _, applicationRead, _, attemptRead, _, numberRead, _, epochRead, rfl⟩

private theorem epochReads_epochParts_iff (read : Option Int) {epoch : Option Int}
    (short : ∀ n ∈ epoch, IsShort n) :
    EpochReads read (epochParts epoch) ↔ (∀ n ∈ epoch, 0 ≤ n) ∧ read = epoch := by
  cases epoch with
  | none => cases read <;> simp [EpochReads, epochParts]
  | some epoch =>
    have reads (n : Int) := Text.fieldReads_padded_iff 2 (m := n) (by decide)
      (short epoch rfl)
    cases read <;> simp [EpochReads, epochParts, reads]

/-- The text of an identifier spells the identifier itself, if it has no signs, and no other. -/
private theorem spelled_parts_iff {id read : ContainerId} (short : ∀ n ∈ id.numbers, IsShort n) :
    Spelled read (epochParts id.epoch) (decimalChars id.application.clusterTimestamp)
      (paddedChars 4 id.application.number) (paddedChars 2 id.attempt) (paddedChars 6 id.number) ↔
    (∀ n ∈ id.numbers, 0 ≤ n) ∧ read = id := by
  obtain ⟨⟨stamp, application⟩, attempt, number, epoch⟩ := id
  obtain ⟨⟨stamp', application'⟩, attempt', number', epoch'⟩ := read
  simp only [numbers, List.forall_mem_append, List.forall_mem_cons, List.not_mem_nil, false_implies,
    implies_true, and_true, Option.mem_toList] at short ⊢
  obtain ⟨⟨shortStamp, shortApplication, shortAttempt, shortNumber⟩, shortEpoch⟩ := short
  have stamps := Text.fieldReads_padded_iff 1 (m := stamp') (by decide) shortStamp
  have applications :=
    Text.fieldReads_padded_iff 4 (m := application') (by decide) shortApplication
  have attempts := Text.fieldReads_padded_iff 2 (m := attempt') (by decide) shortAttempt
  have numbers := Text.fieldReads_padded_iff 6 (m := number') (by decide) shortNumber
  have epochs := epochReads_epochParts_iff epoch' shortEpoch
  constructor
  · rintro ⟨dated, stamped, applied, attempted, counted⟩
    obtain ⟨naturalEpoch, rfl⟩ := epochs.1 dated
    obtain ⟨naturalStamp, rfl⟩ := stamps.1 stamped
    obtain ⟨naturalApplication, rfl⟩ := applications.1 applied
    obtain ⟨naturalAttempt, rfl⟩ := attempts.1 attempted
    obtain ⟨naturalNumber, rfl⟩ := numbers.1 counted
    exact ⟨⟨⟨naturalStamp, naturalApplication, naturalAttempt, naturalNumber⟩, naturalEpoch⟩, rfl⟩
  · rintro ⟨⟨⟨naturalStamp, naturalApplication, naturalAttempt, naturalNumber⟩, naturalEpoch⟩, same⟩
    cases same
    exact ⟨epochs.2 ⟨naturalEpoch, rfl⟩, stamps.2 ⟨naturalStamp, rfl⟩,
      applications.2 ⟨naturalApplication, rfl⟩, attempts.2 ⟨naturalAttempt, rfl⟩,
      numbers.2 ⟨naturalNumber, rfl⟩⟩

/-- An identifier is read back exactly if none of its numbers has a sign. -/
private theorem parse_text_eq_ok_iff {id read : ContainerId} (short : ∀ n ∈ id.numbers, IsShort n) :
    parse id.text = .ok read ↔ (∀ n ∈ id.numbers, 0 ≤ n) ∧ read = id := by
  rw [← spelled_parts_iff short, parse_eq_ok_iff, text, String.toList_ofList, trimChars_chars,
    splitOn_chars]
  constructor
  · rintro ⟨epoch, stamp, application, attempt, number, parts, spelled⟩
    obtain ⟨front, back⟩ := List.append_inj' parts rfl
    cases front
    cases back
    exact spelled
  · intro spelled
    exact ⟨_, _, _, _, _, rfl, spelled⟩

/-- What was read has no signs and can be written and read again. -/
private theorem natural_of_parse {text : String} {id : ContainerId} (read : parse text = .ok id) :
    ∀ n ∈ id.numbers, 0 ≤ n ∧ IsShort n := by
  obtain ⟨epoch, _, _, _, _, -, spelled⟩ := parse_eq_ok_iff.1 read
  have dated : ∀ n ∈ id.epoch, 0 ≤ n ∧ IsShort n := by
    intro n among
    have reads := spelled.epoch
    rw [Option.mem_def.1 among] at reads
    obtain ⟨field, -, reads⟩ := reads
    exact reads.natural
  simp only [numbers, List.forall_mem_append, List.forall_mem_cons, List.not_mem_nil, false_implies,
    implies_true, and_true, Option.mem_toList]
  exact ⟨⟨spelled.timestamp.natural, spelled.application.natural, spelled.attempt.natural,
    spelled.number.natural⟩, dated⟩

/-- What was read is read again from its usual text. -/
private theorem parse_text_of_parse {text : String} {id : ContainerId}
    (read : parse text = .ok id) :
    parse id.text = .ok id := by
  have sound := natural_of_parse read
  exact (parse_text_eq_ok_iff fun n among => (sound n among).2).2
    ⟨fun n among => (sound n among).1, rfl⟩

/-- Among the usual texts of identifiers that were read is no other text of one of them. -/
theorem mem_texts_iff {texts : List String} {ids : List ContainerId}
    (read : texts.mapM parse = .ok ids) {text : String} {id : ContainerId}
    (parsed : parse text = .ok id) (among : id ∈ ids) :
    text ∈ ids.map ContainerId.text ↔ text = id.text := by
  constructor
  · intro usual
    obtain ⟨other, inIds, rfl⟩ := List.mem_map.1 usual
    obtain ⟨source, -, parsed'⟩ := Running.exists_of_mem_mapM read other inIds
    rw [parse_text_of_parse parsed'] at parsed
    cases parsed
    rfl
  · rintro rfl
    exact List.mem_map_of_mem among

private theorem application_numbers_subset (id : ContainerId) :
    id.application.numbers ⊆ id.numbers := by
  intro n among
  simp only [ApplicationId.numbers, List.mem_cons, List.not_mem_nil, or_false] at among
  rcases among with rfl | rfl <;> simp [numbers]

/-- The key of a container is its text, which is no name that archives keep for themselves. -/
private theorem key_bytes (id : ContainerId) :
    (Archive.Key.ofContainer id).bytes = .ok (Text.Utf8.encode id.text) := by
  have first : id.text.toList.head? = some 'c' := by
    rw [text, String.toList_ofList]
    unfold chars
    simp only [List.append_assoc]
    rw [List.head?_append]
    rfl
  have other (name : String) (starts : name.toList.head? ≠ some 'c') : id.text ≠ name := by
    rintro rfl
    exact starts first
  have plain : Archive.isReserved id.text = false := by
    simp [Archive.isReserved, other _ (by decide : Archive.versionName.toList.head? ≠ some 'c'),
      other _ (by decide : Archive.ownerName.toList.head? ≠ some 'c')]
  simp [Archive.Key.bytes, Archive.Key.ofContainer, plain]

/-- Below one root, the directories of two containers have different paths. -/
private theorem eq_of_directoryIn {collector other : Collector} {root : Path}
    (same : (collector.directoryIn root).text = (other.directoryIn root).text) :
    collector.container = other.container := by
  have parts (collector : Collector) : collector.directoryIn root =
      (root.append ⟨"", [collector.container.application.text]⟩).append
        ⟨"", [collector.container.text]⟩ := by
    simp [Collector.directoryIn, Path.append]
  rw [parts, parts] at same
  exact text_injective (Path.last_eq_of_text (by simp) (by simp) collector.container.plainPart_text
    other.container.plainPart_text same)

/-- An identifier whose numbers have no more digits than can be read is read back exactly if no number
has a sign, and then as itself, with the application that its application's text is read as. The text
of whatever was read is read as something with the same text. Different identifiers have different
texts, and so different containers have different keys and different directories below every root. -/
theorem text_read_back :
    (∀ id : ContainerId, (∀ n ∈ id.numbers, IsShort n) →
      ((∃ read, parse id.text = .ok read) ↔ ∀ n ∈ id.numbers, 0 ≤ n) ∧
      ∀ read, parse id.text = .ok read →
        read = id ∧ ApplicationId.parse id.application.text = .ok read.application) ∧
    (∀ text id, parse text = .ok id → ∃ read, parse id.text = .ok read ∧ read.text = id.text) ∧
    ∀ id other : ContainerId, id ≠ other →
      id.text ≠ other.text ∧
      (Archive.Key.ofContainer id).bytes ≠ (Archive.Key.ofContainer other).bytes ∧
      ∀ collector collector' : Collector, collector.container = id → collector'.container = other →
        ∀ root, (collector.directoryIn root).text ≠ (collector'.directoryIn root).text := by
  refine ⟨?_, ?_, ?_⟩
  · intro id short
    constructor
    · constructor
      · rintro ⟨read, parsed⟩
        exact ((parse_text_eq_ok_iff short).1 parsed).1
      · intro natural
        exact ⟨id, (parse_text_eq_ok_iff short).2 ⟨natural, rfl⟩⟩
    · intro read parsed
      obtain ⟨natural, rfl⟩ := (parse_text_eq_ok_iff short).1 parsed
      have among := read.application_numbers_subset
      exact ⟨rfl, ApplicationId.parse_text (fun n mine => short n (among mine))
        fun n mine => natural n (among mine)⟩
  · intro text id parsed
    have sound := natural_of_parse parsed
    have again : parse id.text = .ok id :=
      (parse_text_eq_ok_iff fun n among => (sound n among).2).2 ⟨fun n among => (sound n among).1, rfl⟩
    exact ⟨id, again, rfl⟩
  · intro id other different
    have texts : id.text ≠ other.text := fun same => different (text_injective same)
    refine ⟨texts, ?_, ?_⟩
    · rw [key_bytes, key_bytes]
      intro same
      have decoded := congrArg Text.Utf8.decode? (Except.ok.inj same)
      rw [Text.Utf8.decode?_encode, Text.Utf8.decode?_encode] at decoded
      exact texts (Option.some.inj decoded)
    · rintro collector collector' rfl rfl root same
      exact different (eq_of_directoryIn same)

/-- A container with an epoch and an application number wider than its padding. -/
def epochal : ContainerId := ⟨⟨1410901177871, 12345⟩, 1, 5, some 17⟩

def epochless : ContainerId := { epochal with epoch := none }

/-- It is read from another spelling, read back from its text, and told apart from the container
without the epoch. -/
theorem epochal_read_back :
    parse " container_e0017_1410901177871_12345_1_5\n" = .ok epochal ∧
    (∃ read, parse epochal.text = .ok read ∧ read.text = epochal.text) ∧
    ApplicationId.parse epochal.application.text = .ok epochal.application ∧
    epochal.text ≠ epochless.text ∧
    (Collector.directoryIn ⟨[], epochal, .fixed "root"⟩ ⟨"/", ["logs"]⟩).text ≠
      (Collector.directoryIn ⟨[], epochless, .fixed "root"⟩ ⟨"/", ["logs"]⟩).text := by
  have spelling : parse " container_e0017_1410901177871_12345_1_5\n" = .ok epochal := by decide +kernel
  have short : ∀ n ∈ epochal.numbers, IsShort n := by decide +kernel
  obtain ⟨back, kept, apart⟩ := text_read_back
  obtain ⟨told, same⟩ := back epochal short
  obtain ⟨read, parsed⟩ := told.2 (by decide)
  obtain ⟨rfl, application⟩ := same read parsed
  obtain ⟨texts, -, directories⟩ := apart epochal epochless (by decide)
  exact ⟨spelling, kept _ _ spelling, application, texts, directories _ _ rfl rfl _⟩

end ContainerId

end ContainerLogs
