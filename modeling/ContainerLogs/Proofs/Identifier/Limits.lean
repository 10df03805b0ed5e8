import ContainerLogs.Proofs.Identifier.Grammar

/-!
The limits of reading identifiers. A text that has the form of an identifier is recognised however many
digits it has, but its numbers are read only up to a limit of digits. Beyond it the text is neither read
nor refused: what comes out is the failure of the number, which is no fault of the identifier.
-/
namespace ContainerLogs

namespace Text

variable {front back core text : List Char} {c : Char}

private theorem isDigit_of_isBlank (blank : isBlank c = true) : isDigit c = false := by
  rw [isDigit, digitValue?_of_isBlank blank]
  rfl

/-- A run of digits does not go on behind what is no digit. -/
private theorem RunsShort.around (short : RunsShort front) (short' : RunsShort back)
    (noDigit : isDigit c = false) : RunsShort (front ++ c :: back) := by
  intro run inside digits
  have outside : c ∉ run := by
    intro among
    rw [digits c among] at noDigit
    cases noDigit
  rcases List.infix_append_iff.1 inside with before | behind | ⟨run₁, run₂, rfl, ends, starts⟩
  · exact short run before digits
  · rcases List.infix_cons_iff.1 behind with starts | behind
    · rcases List.prefix_cons_iff.1 starts with rfl | ⟨rest, rfl, -⟩
      · exact Nat.zero_le _
      · exact absurd List.mem_cons_self outside
    · exact short' run behind digits
  · rcases List.prefix_cons_iff.1 starts with rfl | ⟨rest, rfl, -⟩
    · rw [List.append_nil] at digits ⊢
      exact short run₁ ends.isInfix digits
    · exact absurd (List.mem_append_right run₁ List.mem_cons_self) outside

private theorem runsShort_of_no_digits (none : ∀ c ∈ text, isDigit c = false) : RunsShort text := by
  intro run inside digits
  cases run with
  | nil => exact Nat.zero_le _
  | cons c run =>
    have noDigit := none c (inside.subset List.mem_cons_self)
    rw [digits c List.mem_cons_self] at noDigit
    cases noDigit

private theorem runsShort_nil : RunsShort [] := runsShort_of_no_digits nofun

/-- Blanks make no run longer. -/
private theorem RunsShort.padded (short : RunsShort core) (padded : Padded core text) :
    RunsShort text := by
  obtain ⟨front, back, blank, blank', rfl⟩ := padded
  have behind : RunsShort (core ++ back) := by
    cases back with
    | nil => rwa [List.append_nil]
    | cons c back =>
      obtain ⟨here, there⟩ := List.forall_mem_cons.1 blank'
      have rest : RunsShort back :=
        runsShort_of_no_digits fun c among => isDigit_of_isBlank (there c among)
      exact short.around rest (isDigit_of_isBlank here)
  rw [List.append_assoc]
  induction front with
  | nil => exact behind
  | cons c front ih =>
    obtain ⟨here, there⟩ := List.forall_mem_cons.1 blank
    exact runsShort_nil.around (ih there) (isDigit_of_isBlank here)

private theorem RunsShort.intercalate {parts : List (List Char)}
    (short : ∀ part ∈ parts, RunsShort part) (noDigit : isDigit c = false) :
    RunsShort ([c].intercalate parts) := by
  induction parts with
  | nil => exact runsShort_nil
  | cons first others ih =>
    obtain ⟨here, there⟩ := List.forall_mem_cons.1 short
    by_cases alone : others = []
    · subst alone
      rwa [List.intercalate_singleton]
    · rw [List.intercalate_cons_of_ne_nil alone, List.append_assoc, List.singleton_append]
      exact here.around (ih there) noDigit

/-- A text whose parts are short holds no long run: neither a blank nor an underscore is a digit. -/
private theorem RunsShort.of_parts {parts : List (List Char)}
    (split : List.splitOn '_' (trimChars text) = parts) (short : ∀ part ∈ parts, RunsShort part) :
    RunsShort text := by
  have joined := RunsShort.intercalate short (c := '_') (by decide)
  rw [← split, List.intercalate_splitOn] at joined
  exact joined.padded (padded_trimChars text)

/-- Any digits make up a number. -/
private theorem exists_decimal {run : List Char} (hasDigits : run ≠ [])
    (digits : ∀ c ∈ run, isDigit c = true) :
    ∃ n, Decimal run n := by
  induction run using List.reverseRecOn with
  | nil => exact absurd rfl hasDigits
  | append_singleton run c ih =>
    simp only [List.forall_mem_append, List.forall_mem_singleton] at digits
    obtain ⟨d, value⟩ := Option.isSome_iff_exists.1 digits.2
    by_cases alone : run = []
    · subst alone
      exact ⟨d, .digit value⟩
    · obtain ⟨n, others⟩ := ih alone digits.1
      exact ⟨_, .next others value⟩

/-- A field that is read as a number is no longer than a number may be. -/
private theorem FieldReads.runsShort {field : List Char} {n : Int} (reads : FieldReads field n) :
    RunsShort field := by
  obtain ⟨digits, run, read⟩ := reads
  apply runsShort_of_length
  rw [← length_digitRun? run]
  by_contra long
  rw [fieldNumber, valueWithin, if_neg long] at read
  cases read

end Text

/-- What fails only for too many digits. -/
def OnlyOversized {α : Type} (result : Except IdentifierFault α) : Prop :=
  (∃ a, result = .ok a) ∨ result = .error .oversizedField

namespace OnlyOversized

variable {α β : Type}

private theorem pure (a : α) : OnlyOversized (.ok a) := .inl ⟨a, rfl⟩

private theorem bind {first : Except IdentifierFault α} {next : α → Except IdentifierFault β}
    (here : OnlyOversized first) (there : ∀ a, OnlyOversized (next a)) :
    OnlyOversized (first >>= next) := by
  rcases here with ⟨a, rfl⟩ | rfl
  · exact there a
  · exact .inr rfl

private theorem fieldNumber (digits : List Nat) : OnlyOversized (fieldNumber digits) := by
  unfold ContainerLogs.fieldNumber
  split
  · exact pure _
  · exact .inr rfl

private theorem mapM (field : Option (List Nat)) :
    OnlyOversized (field.mapM ContainerLogs.fieldNumber) := by
  cases field with
  | none => exact pure none
  | some digits => exact (fieldNumber digits).bind fun n => pure (some n)

end OnlyOversized

open Text (Padded RunsShort)

namespace ApplicationId

variable {text : String} {core : List Char} {id : ApplicationId}

private theorem onlyOversized_parse (form : Form core id) (padded : Padded core text.toList) :
    OnlyOversized (parse text) := by
  obtain ⟨⟨stamp, number⟩, found⟩ := fields?_of_form form padded
  rw [parse, found]
  exact (OnlyOversized.fieldNumber stamp).bind fun _ => (OnlyOversized.fieldNumber number).bind
    fun _ => .pure _

private theorem runsShort_of_parse (read : parse text = .ok id) : RunsShort text.toList := by
  cases found : fields? text.toList with
  | none =>
    rw [parse, found] at read
    cases read
  | some fields =>
    obtain ⟨stamp, number, split, stampRun, numberRun⟩ := fields?_eq_some_iff.1 found
    rw [parse, found] at read
    obtain ⟨_, stampRead, read⟩ := Running.bind_eq_ok_iff.1 read
    obtain ⟨_, numberRead, -⟩ := Running.bind_eq_ok_iff.1 read
    have word : RunsShort "application".toList := Text.runsShort_of_length (by decide)
    have stamped : Text.FieldReads stamp _ := ⟨_, stampRun, stampRead⟩
    have numbered : Text.FieldReads number _ := ⟨_, numberRun, numberRead⟩
    apply Text.RunsShort.of_parts split
    simp only [List.forall_mem_cons]
    exact ⟨word, stamped.runsShort, numbered.runsShort, List.forall_mem_nil _⟩

/-- What has the form and too many digits is neither read nor refused. -/
private theorem parse_of_long (form : Form core id) (padded : Padded core text.toList)
    (long : ¬ RunsShort text.toList) : parse text = .error .oversizedField := by
  rcases onlyOversized_parse form padded with ⟨id, read⟩ | strayed
  · exact absurd (runsShort_of_parse read) long
  · exact strayed

end ApplicationId

namespace ContainerId

variable {text : String} {core : List Char} {id : ContainerId}

private theorem onlyOversized_parse (form : Form core id) (padded : Padded core text.toList) :
    OnlyOversized (parse text) := by
  obtain ⟨fields, found⟩ := fields?_of_form form padded
  rw [parse, found]
  exact (OnlyOversized.fieldNumber fields.timestamp).bind fun _ =>
    (OnlyOversized.fieldNumber fields.application).bind fun _ =>
    (OnlyOversized.fieldNumber fields.attempt).bind fun _ =>
    (OnlyOversized.fieldNumber fields.number).bind fun _ =>
    (OnlyOversized.mapM fields.epoch).bind fun _ => .pure _

private theorem EpochReads.runsShort {epoch : Option Int} {parts : List (List Char)}
    (reads : EpochReads epoch parts) : ∀ part ∈ parts, RunsShort part := by
  cases epoch with
  | none =>
    obtain rfl : parts = [] := reads
    nofun
  | some epoch =>
    obtain ⟨field, rfl, reads⟩ := reads
    rw [List.forall_mem_singleton]
    exact Text.runsShort_nil.around reads.runsShort (by decide)

private theorem runsShort_of_parse (read : parse text = .ok id) : RunsShort text.toList := by
  obtain ⟨epoch, stamp, application, attempt, number, split, spelled⟩ := parse_eq_ok_iff.1 read
  have word : RunsShort "container".toList := Text.runsShort_of_length (by decide)
  apply Text.RunsShort.of_parts split
  simp only [List.forall_mem_append, List.forall_mem_cons]
  exact ⟨⟨word, spelled.epoch.runsShort⟩, spelled.timestamp.runsShort, spelled.application.runsShort,
    spelled.attempt.runsShort, spelled.number.runsShort, List.forall_mem_nil _⟩

/-- What has the form and too many digits is neither read nor refused. -/
private theorem parse_of_long (form : Form core id) (padded : Padded core text.toList)
    (long : ¬ RunsShort text.toList) : parse text = .error .oversizedField := by
  rcases onlyOversized_parse form padded with ⟨id, read⟩ | strayed
  · exact absurd (runsShort_of_parse read) long
  · exact strayed

end ContainerId

/-- What is read from all that fits and is short, strays on all that fits and is long, and is refused
otherwise, strays nowhere else. -/
private theorem strays_exactly {ε ι : Type} {result : Except ε ι} {refusal stray : ε}
    (apart : refusal ≠ stray) {text : List Char} {Form : List Char → ι → Prop}
    (decided : (∃ core id, Padded core text ∧ Form core id) ∨ result = .error refusal)
    (accepted : ∀ core id, Padded core text ∧ Form core id → RunsShort text → result = .ok id)
    (strayed : ∀ core id, Padded core text ∧ Form core id → ¬ RunsShort text → result = .error stray) :
    (result = .error stray ↔ (∃ core id, Padded core text ∧ Form core id) ∧ ¬ RunsShort text) ∧
      (result = .error stray ∨ (∃ id, result = .ok id) ∨ result = .error refusal) := by
  constructor
  · constructor
    · intro strays
      rcases decided with ⟨core, id, fits⟩ | refused
      · constructor
        · exact ⟨core, id, fits⟩
        · intro short
          rw [accepted core id fits short] at strays
          cases strays
      · rw [refused] at strays
        exact absurd (Except.error.inj strays) apart
    · rintro ⟨⟨core, id, fits⟩, long⟩
      exact strayed core id fits long
  · rcases decided with ⟨core, id, fits⟩ | refused
    · by_cases short : RunsShort text
      · exact .inr (.inl ⟨id, accepted core id fits short⟩)
      · exact .inl (strayed core id fits short)
    · exact .inr (.inr refused)

/-- Reading an identifier yields it, or refuses the text as no identifier, except where the text has the
form and a run of its digits is too long for a number: there the failure of the number comes out. -/
theorem parse_strays_iff (text : String) :
    ((ContainerId.parse text = .error .oversizedField ↔
        (∃ core id, Padded core text.toList ∧ ContainerId.Form core id) ∧ ¬ RunsShort text.toList) ∧
      (ContainerId.parse text = .error .oversizedField ∨ (∃ id, ContainerId.parse text = .ok id) ∨
        ContainerId.parse text = .error (.notContainer text))) ∧
    (ApplicationId.parse text = .error .oversizedField ↔
        (∃ core id, Padded core text.toList ∧ ApplicationId.Form core id) ∧
          ¬ RunsShort text.toList) ∧
      (ApplicationId.parse text = .error .oversizedField ∨ (∃ id, ApplicationId.parse text = .ok id) ∨
        ApplicationId.parse text = .error (.notApplication text)) := by
  constructor
  · apply strays_exactly IdentifierFault.noConfusion (ContainerId.form_or_refused text)
    · rintro core id ⟨padded, form⟩
      exact ContainerId.parse_of_form form padded
    · rintro core id ⟨padded, form⟩
      exact ContainerId.parse_of_long form padded
  · apply strays_exactly IdentifierFault.noConfusion (ApplicationId.form_or_refused text)
    · rintro core id ⟨padded, form⟩
      exact ApplicationId.parse_of_form form padded
    · rintro core id ⟨padded, form⟩
      exact ApplicationId.parse_of_long form padded

/-- One digit more than a number may have. -/
def overlongDigits : List Char := List.replicate (Text.maxDigits + 1) '1'

/-- Both forms with one digit too many for the last number. -/
theorem parse_of_overlong_digits :
    ContainerId.parse (String.ofList ("container_1_1_1_".toList ++ overlongDigits)) =
        .error .oversizedField ∧
      ApplicationId.parse (String.ofList ("application_1_".toList ++ overlongDigits)) =
        .error .oversizedField := by
  have digits : ∀ c ∈ overlongDigits, Text.isDigit c = true := by
    intro c among
    rw [List.eq_of_mem_replicate among]
    decide
  have length : overlongDigits.length = Text.maxDigits + 1 := List.length_replicate
  obtain ⟨n, last⟩ := Text.exists_decimal (by simp [← List.length_pos_iff, length]) digits
  have one : Text.Decimal ['1'] 1 := .digit (by decide)
  have long (front : String) : ¬ RunsShort (front.toList ++ overlongDigits) := by
    intro short
    have few := short overlongDigits (List.suffix_append _ _).isInfix digits
    omega
  have padded (core : List Char) : Padded core (String.ofList core).toList :=
    ⟨[], [], nofun, nofun, by simp⟩
  constructor
  · have form := ContainerId.Form.intro .absent one one one last
    exact ContainerId.parse_of_long form (padded _) (by simpa using long "container_1_1_1_")
  · have form := ApplicationId.Form.intro one last
    exact ApplicationId.parse_of_long form (padded _) (by simpa using long "application_1_")

end ContainerLogs
