import ContainerLogs.Proofs.Identifier.RoundTrip

/-!
The grammar of identifiers. An identifier is a word and runs of decimal digits between underscores,
with blanks around it; the digits may be of any script, and each run is read in base ten. Texts of
this form are read as the numbers that they spell, and all other texts are refused.
-/
namespace ContainerLogs

namespace Text

/-- A run of decimal digits, and the number that it is in base ten. -/
inductive Decimal : List Char → Nat → Prop where
  | digit {c : Char} {d : Nat} (value : digitValue? c = some d) : Decimal [c] d
  | next {run : List Char} {n : Nat} {c : Char} {d : Nat} (others : Decimal run n)
      (value : digitValue? c = some d) : Decimal (run ++ [c]) (10 * n + d)

/-- A text is another one with blanks around it. -/
def Padded (core text : List Char) : Prop :=
  ∃ front back, (∀ c ∈ front, isBlank c = true) ∧ (∀ c ∈ back, isBlank c = true) ∧
    text = front ++ core ++ back

/-- No run of digits in a text is longer than a number may be. -/
def RunsShort (text : List Char) : Prop :=
  ∀ run, run <:+: text → (∀ c ∈ run, isDigit c = true) → run.length ≤ maxDigits

theorem runsShort_of_length {text : List Char} (few : text.length ≤ maxDigits) : RunsShort text := by
  intro run inside _
  exact Nat.le_trans inside.length_le few

/-- No blank is a digit of any script. -/
theorem digitValue?_of_isBlank {c : Char} (blank : isBlank c = true) : digitValue? c = none := by
  -- Beyond ASCII the blanks lie in the gaps between the tens of digits.
  have zeros : ∀ first ∈ digitZeros, first = 0x30 ∨ (0x660 ≤ first ∧ first + 10 ≤ 0x1680) ∨
      (0x1680 < first ∧ first + 10 ≤ 0x2000) ∨ 0x3000 < first := by decide
  simp only [isBlank, decide_eq_true_eq] at blank
  unfold digitValue?
  split
  · rename_i ascii
    apply if_neg
    intro digit
    have low : '0'.toNat ≤ c.toNat := digit.1
    have zero : '0'.toNat = 48 := rfl
    omega
  · rename_i other
    rw [Option.map_eq_none_iff, List.find?_eq_none]
    intro first among within
    have place := zeros first among
    simp only [decide_eq_true_eq] at within
    omega

namespace Decimal

variable {run : List Char} {n m : Nat}

theorem ne_nil (h : Decimal run n) : run ≠ [] := by
  cases h with
  | digit => exact List.cons_ne_nil _ _
  | next => exact List.append_ne_nil_of_right_ne_nil _ (List.cons_ne_nil _ _)

theorem digits (h : Decimal run n) : ∀ c ∈ run, ∃ d, digitValue? c = some d := by
  induction h with
  | @digit c d value =>
    intro other among
    rw [List.mem_singleton.1 among]
    exact ⟨d, value⟩
  | @next run n c d others value ih =>
    intro other among
    rcases List.mem_append.1 among with before | last
    · exact ih other before
    · rw [List.mem_singleton.1 last]
      exact ⟨d, value⟩

private theorem isDigit (h : Decimal run n) : ∀ c ∈ run, isDigit c = true := by
  intro c among
  obtain ⟨d, value⟩ := h.digits c among
  rw [Text.isDigit, value]
  rfl

private theorem not_isBlank (h : Decimal run n) {c : Char} (among : c ∈ run) :
    isBlank c = false := by
  obtain ⟨d, value⟩ := h.digits c among
  by_contra blank
  rw [digitValue?_of_isBlank (by simpa using blank)] at value
  cases value

theorem underscore_not_mem (h : Decimal run n) : '_' ∉ run := by
  intro among
  obtain ⟨d, value⟩ := h.digits '_' among
  have noDigit : digitValue? '_' = none := by decide
  rw [noDigit] at value
  cases value

end Decimal

private theorem mapM_digitValue?_concat (run : List Char) (c : Char) :
    (run ++ [c]).mapM digitValue? = (do
      let digits ← run.mapM digitValue?
      let d ← digitValue? c
      pure (digits ++ [d])) := by
  rw [List.mapM_append]
  cases run.mapM digitValue? with
  | none => rfl
  | some digits =>
    rw [List.mapM_cons]
    cases digitValue? c <;> rfl

/-- As many digits are read as there are characters. -/
theorem length_digitRun? {run : List Char} {digits : List Nat} (read : digitRun? run = some digits) :
    digits.length = run.length := by
  unfold digitRun? at read
  split at read
  · cases read
  · clear * - read
    induction run using List.reverseRecOn generalizing digits with
    | nil =>
      cases read
      rfl
    | append_singleton run c ih =>
      rw [mapM_digitValue?_concat] at read
      obtain ⟨front, before, read⟩ := Option.bind_eq_some_iff.1 read
      obtain ⟨d, value, made⟩ := Option.bind_eq_some_iff.1 read
      cases made
      simp [ih before]

/-- The digits of a run are read one by one, and make up its number. -/
theorem decimal_iff {run : List Char} {n : Nat} :
    Decimal run n ↔ ∃ digits, digitRun? run = some digits ∧ valueOfDigits digits = n := by
  constructor
  · intro h
    have read : ∃ digits, run.mapM digitValue? = some digits ∧ valueOfDigits digits = n := by
      induction h with
      | @digit c d value => exact ⟨[d], by simp [value], by simp [valueOfDigits]⟩
      | @next run n c d others value ih =>
        obtain ⟨digits, before, rfl⟩ := ih
        refine ⟨digits ++ [d], ?_, by simp [valueOfDigits]⟩
        rw [mapM_digitValue?_concat, before, value]
        rfl
    obtain ⟨digits, mapped, number⟩ := read
    refine ⟨digits, ?_, number⟩
    rw [digitRun?, if_neg (by simpa using h.ne_nil), mapped]
  · rintro ⟨digits, read, rfl⟩
    unfold digitRun? at read
    split at read
    · cases read
    rename_i nonempty
    replace nonempty : run ≠ [] := by simpa using nonempty
    induction run using List.reverseRecOn generalizing digits with
    | nil => exact absurd rfl nonempty
    | append_singleton run c ih =>
      rw [mapM_digitValue?_concat] at read
      obtain ⟨front, before, read⟩ := Option.bind_eq_some_iff.1 read
      obtain ⟨d, value, made⟩ := Option.bind_eq_some_iff.1 read
      cases made
      by_cases alone : run = []
      · subst alone
        cases before
        simpa [valueOfDigits] using Decimal.digit value
      · have shown := Decimal.next (ih _ before alone) value
        simpa [valueOfDigits] using shown

private theorem Padded.isInfix {core text : List Char} (h : Padded core text) : core <:+: text := by
  obtain ⟨front, back, -, -, rfl⟩ := h
  exact List.infix_append front core back

theorem padded_trimChars (text : List Char) : Padded (trimChars text) text :=
  exists_around isBlank text

/-- A text that starts with a letter and ends with digits is what is left of it between blanks. -/
private theorem trimChars_of_padded {front run text : List Char} {c : Char} {n : Nat}
    (starts : front.head? = some c) (kept : isBlank c = false) (digits : Decimal run n)
    (padded : Padded (front ++ '_' :: run) text) : trimChars text = front ++ '_' :: run := by
  obtain ⟨before, after, blank, blank', rfl⟩ := padded
  apply trimBy_around blank blank'
  · intro first begins
    rw [List.head?_append, starts] at begins
    cases begins
    exact kept
  · intro last ends
    have final := List.getLast?_eq_some_getLast digits.ne_nil
    rw [List.getLast?_append, List.getLast?_cons, final] at ends
    cases ends
    exact digits.not_isBlank (List.mem_of_getLast? final)
  · exact List.append_ne_nil_of_right_ne_nil _ (List.cons_ne_nil _ _)

/-- A run of digits that is not too long is read as its number. -/
private theorem Decimal.reads {run text : List Char} {n : Nat} (h : Decimal run n)
    (short : RunsShort text) (inside : run <:+: text) : FieldReads run n := by
  have few : run.length ≤ maxDigits := short run inside h.isDigit
  obtain ⟨digits, read, value⟩ := decimal_iff.1 h
  refine ⟨digits, read, ?_⟩
  rw [← length_digitRun? read] at few
  rw [fieldNumber, valueWithin, if_pos few, value]

theorem decimal_of_digitRun? {run : List Char} {digits : List Nat}
    (read : digitRun? run = some digits) : Decimal run (valueOfDigits digits) :=
  decimal_iff.2 ⟨digits, read, rfl⟩

end Text

open Text (Decimal FieldReads Padded RunsShort trimChars)

namespace ApplicationId

/-- The form of an application identifier, and the numbers that it spells. -/
inductive Form : List Char → ApplicationId → Prop where
  | intro {stamp number : List Char} {n₁ n₂ : Nat} (stamped : Decimal stamp n₁)
      (numbered : Decimal number n₂) :
      Form ("application_".toList ++ stamp ++ '_' :: number) ⟨n₁, n₂⟩

theorem fields?_eq_some_iff {text : List Char} {stamp number : List Nat} :
    fields? text = some (stamp, number) ↔ ∃ stampField numberField,
      List.splitOn '_' (trimChars text) = ["application".toList, stampField, numberField] ∧
      Text.digitRun? stampField = some stamp ∧ Text.digitRun? numberField = some number := by
  unfold fields?
  constructor
  · intro read
    split at read
    · rename_i word stampField numberField parts
      simp only [Option.bind_eq_bind, Option.bind_eq_some_iff, Option.guard_eq_some'] at read
      obtain ⟨_, rfl, _, stampRun, _, numberRun, made⟩ := read
      cases made
      exact ⟨stampField, numberField, parts, stampRun, numberRun⟩
    · cases read
  · rintro ⟨stampField, numberField, parts, stampRun, numberRun⟩
    simp [parts, stampRun, numberRun]

variable {text : String} {core : List Char} {id : ApplicationId}

/-- What has the form is taken apart into the word and the digits. -/
private theorem splitOn_of_form {stamp number text : List Char} {n₁ n₂ : Nat}
    (stamped : Decimal stamp n₁) (numbered : Decimal number n₂)
    (padded : Padded ("application_".toList ++ stamp ++ '_' :: number) text) :
    List.splitOn '_' (trimChars text) = ["application".toList, stamp, number] := by
  have trimmed := Text.trimChars_of_padded (c := 'a') rfl (by decide) numbered padded
  rw [trimmed, Text.splitOn_eq_iff (List.cons_ne_nil _ _)]
  · simp [List.intercalate]
  · simp [stamped.underscore_not_mem, numbered.underscore_not_mem]

theorem fields?_of_form (form : Form core id) (padded : Padded core text.toList) :
    ∃ fields, fields? text.toList = some fields := by
  obtain ⟨stamped, numbered⟩ := form
  obtain ⟨digits₁, run₁, -⟩ := Text.decimal_iff.1 stamped
  obtain ⟨digits₂, run₂, -⟩ := Text.decimal_iff.1 numbered
  have parts := splitOn_of_form stamped numbered padded
  exact ⟨_, fields?_eq_some_iff.2 ⟨_, _, parts, run₁, run₂⟩⟩

/-- What has the form is read as the numbers that it spells. -/
theorem parse_of_form (form : Form core id) (padded : Padded core text.toList)
    (short : RunsShort text.toList) : parse text = .ok id := by
  obtain @⟨stamp, number, n₁, n₂, stamped, numbered⟩ := form
  have parts := splitOn_of_form stamped numbered padded
  have inside {part : List Char} (among : part ∈ ["application".toList, stamp, number]) :
      part <:+: text.toList := by
    rw [← parts] at among
    have trimmed := Text.padded_trimChars text.toList
    exact (Text.isInfix_of_mem_splitOn among).trans trimmed.isInfix
  obtain ⟨digits₁, run₁, read₁⟩ := stamped.reads short (inside (by simp))
  obtain ⟨digits₂, run₂, read₂⟩ := numbered.reads short (inside (by simp))
  have fields : fields? text.toList = some (digits₁, digits₂) :=
    fields?_eq_some_iff.2 ⟨stamp, number, parts, run₁, run₂⟩
  simp [parse, fields, read₁, read₂, bind, Except.bind, pure, Except.pure]

/-- A text has the form, between blanks, or it is refused. -/
theorem form_or_refused (text : String) : (∃ core id, Padded core text.toList ∧ Form core id) ∨
    parse text = .error (.notApplication text) := by
  cases fields : fields? text.toList with
  | none =>
    right
    rw [parse, fields]
  | some found =>
    left
    obtain ⟨stamp, number, parts, stampRun, numberRun⟩ := fields?_eq_some_iff.1 fields
    have core : trimChars text.toList = "application_".toList ++ stamp ++ '_' :: number := by
      rw [← @List.intercalate_splitOn _ (trimChars text.toList) _ _ '_', parts]
      simp [List.intercalate]
    have form := Form.intro (Text.decimal_of_digitRun? stampRun) (Text.decimal_of_digitRun? numberRun)
    rw [← core] at form
    exact ⟨_, _, Text.padded_trimChars text.toList, form⟩

end ApplicationId

namespace ContainerId

/-- The form of an epoch, which may be absent. -/
inductive EpochForm : List Char → Option Int → Prop where
  | absent : EpochForm [] none
  | present {epoch : List Char} {n : Nat} (dated : Decimal epoch n) :
      EpochForm ('e' :: epoch ++ ['_']) (some n)

/-- The form of a container identifier, and the numbers that it spells. -/
inductive Form : List Char → ContainerId → Prop where
  | intro {dating stamp application attempt number : List Char} {epoch : Option Int}
      {n₁ n₂ n₃ n₄ : Nat} (dated : EpochForm dating epoch) (stamped : Decimal stamp n₁)
      (applied : Decimal application n₂) (attempted : Decimal attempt n₃)
      (numbered : Decimal number n₄) :
      Form ("container_".toList ++ dating ++ stamp ++ '_' :: application ++ '_' :: attempt ++
        '_' :: number) ⟨⟨n₁, n₂⟩, n₃, n₄, epoch⟩

/-- An epoch is one part more between underscores. -/
private theorem EpochForm.exists_parts {dating : List Char} {epoch : Option Int}
    (form : EpochForm dating epoch) : ∃ dates : List (List Char),
    dating = dates.flatMap (· ++ ['_']) ∧ (∀ part ∈ dates, '_' ∉ part) ∧
      (∃ digits, EpochRun digits dates) ∧
      ∀ text, RunsShort text → (∀ part ∈ dates, part <:+: text) → EpochReads epoch dates := by
  cases form with
  | absent => exact ⟨[], rfl, nofun, ⟨none, rfl⟩, fun _ _ _ => rfl⟩
  | @present epoch n dated =>
    obtain ⟨digits, run, -⟩ := Text.decimal_iff.1 dated
    refine ⟨['e' :: epoch], by simp, ?_, ⟨some digits, epoch, rfl, run⟩, ?_⟩
    · simp [dated.underscore_not_mem]
    · intro text short inside
      have digits : epoch <:+: 'e' :: epoch := (List.suffix_cons 'e' epoch).isInfix
      exact ⟨epoch, rfl, dated.reads short (digits.trans (inside _ List.mem_cons_self))⟩

private theorem EpochRun.exists_form {digits : Option (List Nat)} {dates : List (List Char)}
    (run : EpochRun digits dates) : ∃ epoch, EpochForm (dates.flatMap (· ++ ['_'])) epoch := by
  cases digits with
  | none =>
    obtain rfl : dates = [] := run
    exact ⟨none, .absent⟩
  | some digits =>
    obtain ⟨field, rfl, read⟩ := run
    have form := EpochForm.present (Text.decimal_of_digitRun? read)
    exact ⟨_, by simpa using form⟩

/-- What stands between the underscores, with an epoch or without. -/
private theorem joined_eq (dates : List (List Char))
    (stamp application attempt number : List Char) :
    "container_".toList ++ dates.flatMap (· ++ ['_']) ++ stamp ++ '_' :: application ++
        '_' :: attempt ++ '_' :: number =
      ['_'].intercalate ("container".toList :: dates ++ [stamp, application, attempt, number]) := by
  have front : ∀ parts : List (List Char), ['_'].intercalate
      (parts ++ [stamp, application, attempt, number]) = parts.flatMap (· ++ ['_']) ++
        (stamp ++ '_' :: application ++ '_' :: attempt ++ '_' :: number) := by
    intro parts
    induction parts with
    | nil => simp [List.intercalate]
    | cons part parts ih =>
      rw [List.cons_append, List.intercalate_cons_of_ne_nil (by simp), ih]
      simp
  rw [front]
  simp

variable {text : String} {core : List Char} {id : ContainerId}

/-- What has the form is taken apart into the word and the digits; an epoch is at most one more part
behind the word. -/
private theorem splitOn_of_form {dates : List (List Char)}
    {stamp application attempt number text : List Char} {n₁ n₂ n₃ n₄ : Nat}
    (clear : ∀ part ∈ dates, '_' ∉ part) (stamped : Decimal stamp n₁)
    (applied : Decimal application n₂) (attempted : Decimal attempt n₃)
    (numbered : Decimal number n₄)
    (padded : Padded ("container_".toList ++ dates.flatMap (· ++ ['_']) ++ stamp ++ '_' :: application ++ '_' :: attempt ++ '_' :: number) text) :
    List.splitOn '_' (trimChars text) =
      "container".toList :: dates ++ [stamp, application, attempt, number] := by
  have trimmed := Text.trimChars_of_padded (c := 'c') rfl (by decide) numbered padded
  let parts := "container".toList :: dates ++ [stamp, application, attempt, number]
  have absent : ∀ part ∈ parts, '_' ∉ part := by
    have word : '_' ∉ "container".toList := by decide
    simp only [parts, List.forall_mem_append, List.forall_mem_cons]
    exact ⟨⟨word, clear⟩, stamped.underscore_not_mem, applied.underscore_not_mem,
      attempted.underscore_not_mem, numbered.underscore_not_mem, nofun⟩
  have hasParts : parts ≠ [] := List.cons_ne_nil _ _
  rw [Text.splitOn_eq_iff hasParts absent, trimmed, joined_eq]

theorem fields?_of_form (form : Form core id) (padded : Padded core text.toList) :
    ∃ fields, fields? text.toList = some fields := by
  obtain ⟨dated, stamped, applied, attempted, numbered⟩ := form
  obtain ⟨dates, rfl, clear, ⟨epoch, run₀⟩, -⟩ := dated.exists_parts
  obtain ⟨digits₁, run₁, -⟩ := Text.decimal_iff.1 stamped
  obtain ⟨digits₂, run₂, -⟩ := Text.decimal_iff.1 applied
  obtain ⟨digits₃, run₃, -⟩ := Text.decimal_iff.1 attempted
  obtain ⟨digits₄, run₄, -⟩ := Text.decimal_iff.1 numbered
  have parts := splitOn_of_form clear stamped applied attempted numbered padded
  exact ⟨⟨epoch, digits₁, digits₂, digits₃, digits₄⟩,
    fields?_eq_some_iff.2 ⟨dates, _, _, _, _, parts, ⟨run₀, run₁, run₂, run₃, run₄⟩⟩⟩

/-- What has the form is read as the numbers that it spells. -/
theorem parse_of_form (form : Form core id) (padded : Padded core text.toList)
    (short : RunsShort text.toList) : parse text = .ok id := by
  obtain @⟨dating, stamp, application, attempt, number, epoch, n₁, n₂, n₃, n₄, dated, stamped, applied,
    attempted, numbered⟩ := form
  obtain ⟨dates, rfl, clear, -, reads⟩ := dated.exists_parts
  let parts := "container".toList :: dates ++ [stamp, application, attempt, number]
  have split : List.splitOn '_' (trimChars text.toList) = parts :=
    splitOn_of_form clear stamped applied attempted numbered padded
  have inside {part : List Char} (among : part ∈ parts) : part <:+: text.toList := by
    rw [← split] at among
    have trimmed := Text.padded_trimChars text.toList
    exact (Text.isInfix_of_mem_splitOn among).trans trimmed.isInfix
  rw [parse_eq_ok_iff]
  refine ⟨dates, stamp, application, attempt, number, split, ?_⟩
  constructor
  · apply reads _ short
    intro part among
    exact inside (by simp [parts, among])
  · exact stamped.reads short (inside (by simp [parts]))
  · exact applied.reads short (inside (by simp [parts]))
  · exact attempted.reads short (inside (by simp [parts]))
  · exact numbered.reads short (inside (by simp [parts]))

/-- A text has the form, between blanks, or it is refused. -/
theorem form_or_refused (text : String) : (∃ core id, Padded core text.toList ∧ Form core id) ∨
    parse text = .error (.notContainer text) := by
  cases found : fields? text.toList with
  | none =>
    right
    rw [parse, found]
  | some fields =>
    left
    obtain ⟨dates, stamp, application, attempt, number, parts, fielded⟩ :=
      fields?_eq_some_iff.1 found
    obtain ⟨epoch, dated⟩ := fielded.epoch.exists_form
    have form := Form.intro dated (Text.decimal_of_digitRun? fielded.timestamp)
      (Text.decimal_of_digitRun? fielded.application) (Text.decimal_of_digitRun? fielded.attempt)
      (Text.decimal_of_digitRun? fielded.number)
    rw [joined_eq, ← parts, List.intercalate_splitOn] at form
    exact ⟨_, _, Text.padded_trimChars text.toList, form⟩

end ContainerId

/-- What is read from all that fits, and refused unless something fits, is read from nothing else. -/
private theorem accepts_exactly {ε ι : Type} {result : Except ε ι} {refusal : ε}
    {text : List Char} {Form : List Char → ι → Prop}
    (accepted : ∀ core id, Padded core text ∧ Form core id → result = .ok id)
    (decided : (∃ core id, Padded core text ∧ Form core id) ∨ result = .error refusal) :
    (∀ id, result = .ok id ↔ ∃ core, Padded core text ∧ Form core id) ∧
      ((∀ core id, Padded core text → ¬ Form core id) → result = .error refusal) := by
  constructor
  · intro id
    constructor
    · intro read
      rcases decided with ⟨core, id', fits⟩ | refused
      · have read' := accepted core id' fits
        rw [read] at read'
        cases read'
        exact ⟨core, fits⟩
      · rw [read] at refused
        cases refused
    · rintro ⟨core, fits⟩
      exact accepted core id fits
  · intro formless
    rcases decided with ⟨core, id, padded, form⟩ | refused
    · exact absurd form (formless core id padded)
    · exact refused

/-- Where no run of digits is too long, the identifiers that are read are those that stand in the
text between blanks, with the numbers that they spell, and all other texts are refused as they are. -/
theorem parse_follows_form (text : String) (short : RunsShort text.toList) :
    ((∀ id, ContainerId.parse text = .ok id ↔
        ∃ core, Padded core text.toList ∧ ContainerId.Form core id) ∧
      ((∀ core id, Padded core text.toList → ¬ ContainerId.Form core id) →
        ContainerId.parse text = .error (.notContainer text))) ∧
    (∀ id, ApplicationId.parse text = .ok id ↔
        ∃ core, Padded core text.toList ∧ ApplicationId.Form core id) ∧
      ((∀ core id, Padded core text.toList → ¬ ApplicationId.Form core id) →
        ApplicationId.parse text = .error (.notApplication text)) := by
  constructor
  · apply accepts_exactly
    · rintro core id ⟨padded, form⟩
      exact ContainerId.parse_of_form form padded short
    · exact ContainerId.form_or_refused text
  · apply accepts_exactly
    · rintro core id ⟨padded, form⟩
      exact ApplicationId.parse_of_form form padded short
    · exact ApplicationId.form_or_refused text

/-- Digits of several scripts between blanks that are not ASCII, and an epoch; the digits of an
identifier do not go on behind a line's end. -/
theorem parse_of_foreign_digits :
    ContainerId.parse "\u2003container_e०१७_1410901177871_٥_1_३\n" =
        .ok ⟨⟨1410901177871, 5⟩, 1, 3, some 17⟩ ∧
      ApplicationId.parse "application_1_2\n3" = .error (.notApplication "application_1_2\n3") := by
  let text := "\u2003container_e०१७_1410901177871_٥_1_३\n"
  have epoch : Decimal ['०', '१', '७'] 17 := Text.decimal_iff.2 ⟨[0, 1, 7], by decide, by decide⟩
  have stamp : Decimal "1410901177871".toList 1410901177871 :=
    Text.decimal_iff.2 ⟨[1, 4, 1, 0, 9, 0, 1, 1, 7, 7, 8, 7, 1], by decide, by decide⟩
  have form := ContainerId.Form.intro (.present epoch) stamp (.digit (c := '٥') (d := 5) (by decide))
    (.digit (c := '1') (d := 1) (by decide)) (.digit (c := '३') (d := 3) (by decide))
  constructor
  · obtain ⟨⟨accepted, -⟩, -⟩ := parse_follows_form text (Text.runsShort_of_length (by decide))
    apply (accepted _).2
    have front : ∀ c ∈ ['\u2003'], Text.isBlank c = true := List.forall_mem_singleton.2 (by decide)
    have back : ∀ c ∈ ['\n'], Text.isBlank c = true := List.forall_mem_singleton.2 (by decide)
    refine ⟨_, ⟨_, _, front, back, ?_⟩, form⟩
    decide +kernel
  · decide +kernel

end ContainerLogs
