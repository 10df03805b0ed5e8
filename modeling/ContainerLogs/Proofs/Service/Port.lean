import ContainerLogs.Proofs.Identifier.Grammar

/-!
The form of ports. A port is a run of decimal digits of any script, with single underscores between
digits, behind at most one sign and with blanks around it all. Texts of this form are read as the
number that they spell, and no others are read; the decimal form of a number is among them.
-/
namespace ContainerLogs.Text

/-- A sign or none, and what it makes of a number. -/
inductive SignForm : List Char → Nat → Int → Prop where
  | none (n : Nat) : SignForm [] n n
  | plus (n : Nat) : SignForm ['+'] n n
  | minus (n : Nat) : SignForm ['-'] n (-n)

/-- Runs of digits, joined by underscores, that make up one number. -/
structure Underscored (runs : List (List Char)) (n : Nat) : Prop where
  filled : ∀ run ∈ runs, run ≠ []
  digits : Decimal runs.flatten n
  /-- There are not more digits than a number may have. -/
  few : runs.flatten.length ≤ maxDigits

/-- The form of a port, and the number that it spells. -/
inductive PortForm : List Char → Int → Prop where
  | intro {front sign back : List Char} {runs : List (List Char)} {n : Nat} {value : Int}
      (before : ∀ c ∈ front, isNumberBlank c = true) (signed : SignForm sign n value)
      (spelled : Underscored runs n) (after : ∀ c ∈ back, isNumberBlank c = true) :
      PortForm (front ++ (sign ++ ['_'].intercalate runs) ++ back) value

variable {text front back sign : List Char} {digits : List Nat} {runs : List (List Char)} {n : Nat}
  {value : Int}

private theorem mem_intercalate {separator c : Char} {parts : List (List Char)}
    (among : c ∈ [separator].intercalate parts) : c = separator ∨ c ∈ parts.flatten := by
  induction parts with
  | nil => cases among
  | cons first others ih =>
    by_cases alone : others = []
    · subst alone
      rw [List.intercalate_singleton] at among
      simp [among]
    · rw [List.intercalate_cons_of_ne_nil alone, List.append_assoc] at among
      simp only [List.mem_append, List.mem_singleton, List.flatten_cons] at among ⊢
      rcases among with here | same | there
      · exact .inr (.inl here)
      · exact .inl same
      · exact (ih there).imp_right .inr

/-- No blank around a number is a digit. -/
private theorem not_isNumberBlank_of_digit {c : Char} {d : Nat} (digit : digitValue? c = some d) :
    isNumberBlank c = false := by
  by_contra blank
  have blank' : isBlank c = true := by
    simp only [isNumberBlank, Bool.not_eq_false, decide_eq_true_eq] at blank
    exact blank.1
  rw [digitValue?_of_isBlank blank'] at digit
  cases digit

private theorem digitRun?_eq_some_iff :
    digitRun? text = some digits ↔ text ≠ [] ∧ text.mapM digitValue? = some digits := by
  cases text <;> simp [digitRun?]

private theorem mapM_digitValue?_append_iff : (front ++ back).mapM digitValue? = some digits ↔
    ∃ first second, front.mapM digitValue? = some first ∧ back.mapM digitValue? = some second ∧
      first ++ second = digits := by
  rw [List.mapM_append]
  cases front.mapM digitValue? with
  | none => simp
  | some first => cases back.mapM digitValue? <;> simp

/-- Runs are read one by one, as one run of all their digits. -/
private theorem mapM_digitRun?_iff : (runs.mapM digitRun?).map List.flatten = some digits ↔
    (∀ run ∈ runs, run ≠ []) ∧ runs.flatten.mapM digitValue? = some digits := by
  induction runs generalizing digits with
  | nil => simp
  | cons run runs ih =>
    have first_and_others : ((run :: runs).mapM digitRun?).map List.flatten = some digits ↔
        ∃ first second, digitRun? run = some first ∧
          (runs.mapM digitRun?).map List.flatten = some second ∧ first ++ second = digits := by
      rw [List.mapM_cons]
      cases digitRun? run with
      | none => simp
      | some first => cases runs.mapM digitRun? <;> simp
    rw [first_and_others, List.flatten_cons, mapM_digitValue?_append_iff, List.forall_mem_cons]
    simp only [ih, digitRun?_eq_some_iff]
    constructor
    · rintro ⟨first, second, ⟨filled, read⟩, ⟨others, read'⟩, whole⟩
      exact ⟨⟨filled, others⟩, first, second, read, read', whole⟩
    · rintro ⟨⟨filled, others⟩, first, second, read, read', whole⟩
      exact ⟨first, second, ⟨filled, read⟩, ⟨others, read'⟩, whole⟩

/-- The digits of a text are read, of whatever runs it is joined from. -/
private theorem underscoredDigits?_eq_some_iff : underscoredDigits? text = some digits ↔
    (∀ run ∈ List.splitOn '_' text, run ≠ []) ∧
      (List.splitOn '_' text).flatten.mapM digitValue? = some digits :=
  mapM_digitRun?_iff

namespace Underscored

private theorem ne_nil (h : Underscored runs n) : runs ≠ [] := by
  rintro rfl
  exact h.digits.ne_nil rfl

private theorem underscore_not_mem (h : Underscored runs n) : ∀ run ∈ runs, '_' ∉ run := by
  intro run among inside
  exact h.digits.underscore_not_mem (List.mem_flatten.2 ⟨run, among, inside⟩)

/-- Nothing but digits and underscores stands in the text. -/
private theorem digit_of_mem (h : Underscored runs n) {c : Char}
    (among : c ∈ ['_'].intercalate runs) :
    c = '_' ∨ ∃ d, digitValue? c = some d := by
  rcases mem_intercalate among with underscore | digit
  · exact .inl underscore
  · exact .inr (h.digits.digits c digit)

private theorem not_isNumberBlank (h : Underscored runs n) {c : Char}
    (among : c ∈ ['_'].intercalate runs) : isNumberBlank c = false := by
  rcases h.digit_of_mem among with rfl | ⟨d, value⟩
  · decide
  · exact not_isNumberBlank_of_digit value

/-- The text of a number does not begin with a sign. -/
private theorem head?_ne (h : Underscored runs n) {c : Char}
    (starts : (['_'].intercalate runs).head? = some c) : c ≠ '+' ∧ c ≠ '-' := by
  have noPlus : digitValue? '+' = none := by decide
  have noMinus : digitValue? '-' = none := by decide
  rcases h.digit_of_mem (List.mem_of_head? starts) with rfl | ⟨d, value⟩
  · decide
  · constructor
    · rintro rfl
      rw [noPlus] at value
      cases value
    · rintro rfl
      rw [noMinus] at value
      cases value

/-- The runs of digits are read as the number that they make up. -/
private theorem reads (h : Underscored runs n) : ∃ digits,
    underscoredDigits? (['_'].intercalate runs) = some digits ∧ valueWithin digits = .ok n := by
  obtain ⟨digits, read, rfl⟩ := decimal_iff.1 h.digits
  have few := h.few
  rw [← length_digitRun? read] at few
  refine ⟨digits, ?_, ?_⟩
  · rw [underscoredDigits?_eq_some_iff, List.splitOn_intercalate _ h.underscore_not_mem h.ne_nil]
    exact ⟨h.filled, (digitRun?_eq_some_iff.1 read).2⟩
  · rw [valueWithin, if_pos few]

private theorem of_reads (read : underscoredDigits? text = some digits)
    (within : valueWithin digits = .ok n) : Underscored (List.splitOn '_' text) n := by
  obtain ⟨filled, mapped⟩ := underscoredDigits?_eq_some_iff.1 read
  have hasDigits : (List.splitOn '_' text).flatten ≠ [] := by
    obtain ⟨run, among⟩ := List.exists_mem_of_ne_nil _ (List.splitOn_ne_nil '_' text)
    obtain ⟨c, inside⟩ := List.exists_mem_of_ne_nil _ (filled run among)
    exact List.ne_nil_of_mem (List.mem_flatten.2 ⟨run, among, inside⟩)
  have run := digitRun?_eq_some_iff.2 ⟨hasDigits, mapped⟩
  unfold valueWithin at within
  split at within
  · rename_i few
    rw [length_digitRun? run] at few
    cases within
    exact ⟨filled, decimal_of_digitRun? run, few⟩
  · cases within

end Underscored

/-- What is left of a port between its blanks: a sign and digits. -/
private theorem trimBy_port (before : ∀ c ∈ front, isNumberBlank c = true)
    (signed : SignForm sign n value) (spelled : Underscored runs n)
    (after : ∀ c ∈ back, isNumberBlank c = true) :
    trimBy isNumberBlank (front ++ (sign ++ ['_'].intercalate runs) ++ back) =
      sign ++ ['_'].intercalate runs := by
  have kept : ∀ c ∈ sign ++ ['_'].intercalate runs, isNumberBlank c = false := by
    intro c among
    rcases List.mem_append.1 among with inSign | inDigits
    · cases signed with
      | none => cases inSign
      | plus => rw [List.mem_singleton.1 inSign]; decide
      | minus => rw [List.mem_singleton.1 inSign]; decide
    · exact spelled.not_isNumberBlank inDigits
  apply trimBy_around before after
  · exact fun c starts => kept c (List.mem_of_head? starts)
  · exact fun c ends => kept c (List.mem_of_getLast? ends)
  · obtain ⟨digits, read, -⟩ := spelled.reads
    have hasDigits : ['_'].intercalate runs ≠ [] := by
      intro empty
      rw [empty] at read
      cases read
    exact List.append_ne_nil_of_right_ne_nil _ hasDigits

/-- What is left of a text between its blanks is a sign, or none, in front of what is read as digits. -/
private theorem integer_eq (text : List Char) : ∃ (sign rest : List Char) (negative : Bool),
    trimBy isNumberBlank text = sign ++ rest ∧
      (∀ n : Nat, SignForm sign n (if negative then -(n : Int) else n)) ∧
      integer text =
        match underscoredDigits? rest with
        | none => .error .malformed
        | some digits =>
            valueWithin digits >>= fun n => pure (if negative then -(n : Int) else n) := by
  unfold integer
  split
  rename_i negative rest parted
  split at parted <;> cases parted <;> rename_i trimmed
  · exact ⟨['-'], rest, true, trimmed, fun n => .minus n, rfl⟩
  · exact ⟨['+'], rest, false, trimmed, fun n => .plus n, rfl⟩
  · exact ⟨[], _, false, rfl, fun n => .none n, rfl⟩

/-- A text is read as a number exactly if it has the form of a port that spells it. -/
theorem integer_eq_ok_iff : integer text = .ok value ↔ PortForm text value := by
  constructor
  · intro read
    obtain ⟨sign, rest, negative, trimmed, signed, same⟩ := integer_eq text
    obtain ⟨front, back, before, after, around⟩ := exists_around isNumberBlank text
    rw [same] at read
    split at read
    · cases read
    · rename_i digits runs
      obtain ⟨n, within, made⟩ := Running.bind_eq_ok_iff.1 read
      cases made
      have form := PortForm.intro before (signed n) (Underscored.of_reads runs within) after
      rw [List.intercalate_splitOn, ← trimmed, ← around] at form
      exact form
  · rintro ⟨before, signed, spelled, after⟩
    obtain ⟨digits, read, within⟩ := spelled.reads
    rw [integer, trimBy_port before signed spelled after]
    cases signed with
    | none =>
      have start := fun c => spelled.head?_ne (c := c)
      split
      rename_i negative rest parted
      split at parted <;> rename_i sign
      · rw [List.nil_append] at sign
        exact absurd rfl (start '-' (by simp [sign])).2
      · rw [List.nil_append] at sign
        exact absurd rfl (start '+' (by simp [sign])).1
      · cases parted
        simp [read, within, bind, Except.bind, pure, Except.pure]
    | plus => simp [read, within, bind, Except.bind, pure, Except.pure]
    | minus => simp [read, within, bind, Except.bind, pure, Except.pure]

theorem PortForm.unique {other : Int} (one : PortForm text value) (two : PortForm text other) :
    value = other := by
  rw [← integer_eq_ok_iff] at one two
  rw [one] at two
  exact Except.ok.inj two

/-- A number that can be written in digits is spelled by its decimal form. -/
theorem portForm_decimalChars {n : Int} (short : IsShort n) : PortForm (decimalChars n) n := by
  have spelled {width m : Nat} (narrow : width ≤ 1) (few : (Nat.toDigits 10 m).length ≤ maxDigits) :
      Underscored [padLeft width '0' (Nat.toDigits 10 m)] m := by
    obtain ⟨digits, read, number, length⟩ := digitRun?_padLeft width m
    have hasDigits := padLeft_ne_nil width m
    refine ⟨by simpa using hasDigits, decimal_iff.2 ⟨digits, by simpa using read, number⟩, ?_⟩
    rw [List.flatten_singleton, ← length_digitRun? read, length]
    exact Nat.max_le.2 ⟨narrow.trans (by decide), few⟩
  cases n with
  | ofNat m =>
    have digits := spelled (Nat.le_refl 1) short
    have form := PortForm.intro (List.forall_mem_nil _) (.none m) digits (List.forall_mem_nil _)
    simpa [decimalChars, paddedChars] using form
  | negSucc m =>
    have digits := spelled (m := m + 1) (Nat.zero_le 1) short
    have form := PortForm.intro (List.forall_mem_nil _) (.minus (m + 1)) digits
      (List.forall_mem_nil _)
    simpa [decimalChars, paddedChars, Int.negSucc_eq] using form

/-- What was read can be written. -/
theorem PortForm.isShort (h : PortForm text value) : IsShort value := by
  obtain ⟨-, signed, spelled, -⟩ := h
  obtain ⟨digits, read, number⟩ := decimal_iff.1 spelled.digits
  have few := spelled.few
  rw [← length_digitRun? read] at few
  have short := isShort_of_digits (lt_of_mem_digitRun? read) few
  rw [number] at short
  cases signed with
  | none => exact short
  | plus => exact short
  | minus =>
    rw [IsShort, Int.natAbs_neg]
    exact short

/-- A colon is no part of a port. -/
theorem PortForm.colon_not_mem (h : PortForm text value) : ':' ∉ text := by
  obtain ⟨before, signed, spelled, after⟩ := h
  have noBlank : isNumberBlank ':' = false := by decide
  have noDigit : digitValue? ':' = none := by decide
  simp only [List.mem_append, not_or]
  refine ⟨⟨fun among => ?_, ?_, fun among => ?_⟩, fun among => ?_⟩
  · rw [before ':' among] at noBlank
    cases noBlank
  · cases signed <;> decide
  · rcases spelled.digit_of_mem among with same | ⟨d, value⟩
    · cases same
    · rw [noDigit] at value
      cases value
  · rw [after ':' among] at noBlank
    cases noBlank

end ContainerLogs.Text
