import ContainerLogs.Text.Numeral
import Mathlib.Algebra.Group.Nat.Defs
import Mathlib.Data.List.Induction

/-!
Written numbers are read back. Padding with zeros changes no value, so a number that is not negative
is read as itself from its decimal form of any width, and a sign is never read as a digit. What was
read from so many digits is written with no more.
-/
namespace ContainerLogs.Text

/-- A number that can be read from its digits, and written in digits. -/
def IsShort (n : Int) : Prop := (Nat.toDigits 10 n.natAbs).length ≤ maxDigits

instance (n : Int) : Decidable (IsShort n) := inferInstanceAs (Decidable (_ ≤ maxDigits))

private theorem isShort_natCast {n : Nat} :
    IsShort n ↔ (Nat.toDigits 10 n).length ≤ maxDigits := Iff.rfl

variable {text : List Char} {digits : List Nat}

private theorem digitValue?_of_isDigit {c : Char} (digit : c.isDigit = true) :
    digitValue? c = some (c.toNat - '0'.toNat) := by
  obtain ⟨low, high⟩ := Char.isDigit_iff_toNat.1 digit
  exact digitValue?_ascii c low high

private theorem mapM_digitValue? (all : ∀ c ∈ text, c.isDigit = true) :
    text.mapM digitValue? = some (text.map fun c => c.toNat - '0'.toNat) := by
  induction text with
  | nil => rfl
  | cons c text ih =>
    obtain ⟨digit, others⟩ := List.forall_mem_cons.1 all
    rw [List.mapM_cons, digitValue?_of_isDigit digit, ih others]
    rfl

private theorem valueOfDigits_map (text : List Char) :
    valueOfDigits (text.map fun c => c.toNat - '0'.toNat) = Nat.ofDigitChars 10 text 0 := by
  rw [valueOfDigits, List.foldl_map, Nat.ofDigitChars]

/-- Zeros in front of a number are worth nothing. -/
private theorem ofDigitChars_padLeft (width : Nat) (text : List Char) :
    Nat.ofDigitChars 10 (padLeft width '0' text) 0 = Nat.ofDigitChars 10 text 0 := by
  rw [padLeft]
  induction width - text.length with
  | zero => rfl
  | succ zeros ih => exact ih

theorem isDigit_of_mem_padLeft {width n : Nat} {c : Char}
    (among : c ∈ padLeft width '0' (Nat.toDigits 10 n)) : c.isDigit = true := by
  rcases List.mem_append.1 among with fill | digit
  · obtain rfl := (List.mem_replicate.1 fill).2
    decide
  · exact Nat.isDigit_of_mem_toDigits (by decide) (by decide) digit

private theorem length_padLeft (width : Nat) (fill : Char) (text : List Char) :
    (padLeft width fill text).length = max width text.length := by
  simp only [padLeft, List.length_append, List.length_replicate]
  omega

theorem padLeft_ne_nil (width n : Nat) : padLeft width '0' (Nat.toDigits 10 n) ≠ [] :=
  List.append_ne_nil_of_right_ne_nil _ Nat.toDigits_ne_nil

/-- A padded number is read digit by digit. -/
theorem digitRun?_padLeft (width n : Nat) : ∃ digits,
    digitRun? (padLeft width '0' (Nat.toDigits 10 n)) = some digits ∧ valueOfDigits digits = n ∧
      digits.length = max width (Nat.toDigits 10 n).length := by
  have all : ∀ c ∈ padLeft width '0' (Nat.toDigits 10 n), c.isDigit = true :=
    fun c among => isDigit_of_mem_padLeft among
  refine ⟨(padLeft width '0' (Nat.toDigits 10 n)).map fun c => c.toNat - '0'.toNat, ?_, ?_, ?_⟩
  · rw [digitRun?, if_neg (by simpa using padLeft_ne_nil width n), mapM_digitValue? all]
  · rw [valueOfDigits_map, ofDigitChars_padLeft, Nat.ofDigitChars_ten_toDigits]
  · rw [List.length_map, length_padLeft]

/-- What no digit stands for is no run of digits. -/
private theorem digitRun?_of_mem {c : Char} (among : c ∈ text) (noDigit : digitValue? c = none) :
    digitRun? text = none := by
  have unread : text.mapM digitValue? = none := by
    induction text with
    | nil => cases among
    | cons first text ih =>
      rw [List.mapM_cons]
      rcases List.mem_cons.1 among with rfl | among
      · rw [noDigit]
        rfl
      · rw [ih among]
        cases digitValue? first <;> rfl
  rw [digitRun?, unread]
  split <;> rfl

/-- A sign is no digit. -/
theorem digitRun?_of_negative (width : Nat) {n : Int} (negative : n < 0) :
    digitRun? (paddedChars width n) = none := by
  cases n with
  | ofNat n => simp only [Int.ofNat_eq_natCast] at negative; omega
  | negSucc n => exact digitRun?_of_mem List.mem_cons_self (by decide)

/-- The decimal form tells the number. -/
theorem paddedChars_inj {width : Nat} {n m : Int} (same : paddedChars width n = paddedChars width m) :
    n = m := by
  have noSign {k l : Nat} (signed : padLeft width '0' (Nat.toDigits 10 k) =
      '-' :: padLeft (width - 1) '0' (Nat.toDigits 10 l)) : False := by
    have sign : '-' ∈ padLeft width '0' (Nat.toDigits 10 k) := by
      rw [signed]
      exact List.mem_cons_self
    exact absurd (isDigit_of_mem_padLeft sign) (by decide)
  have value {k l width : Nat} (alike : padLeft width '0' (Nat.toDigits 10 k) =
      padLeft width '0' (Nat.toDigits 10 l)) : k = l := by
    have read := congrArg (Nat.ofDigitChars 10 · 0) alike
    simpa only [ofDigitChars_padLeft, Nat.ofDigitChars_ten_toDigits] using read
  cases n with
  | ofNat n =>
    cases m with
    | ofNat m => rw [value same]
    | negSucc m => exact (noSign same).elim
  | negSucc n =>
    cases m with
    | ofNat m => exact (noSign same.symm).elim
    | negSucc m =>
      have alike := value (List.cons.inj same).2
      rw [Nat.succ.inj alike]

private theorem digitValue?_lt {c : Char} {value : Nat} (read : digitValue? c = some value) :
    value < 10 := by
  unfold digitValue? at read
  split at read
  · split at read
    · rename_i digit
      have high : c.toNat ≤ '9'.toNat := digit.2
      have nine : '9'.toNat = 57 := rfl
      cases read
      omega
    · cases read
  · obtain ⟨first, found, rfl⟩ := Option.map_eq_some_iff.1 read
    have within : first ≤ c.toNat ∧ c.toNat < first + 10 := by simpa using List.find?_some found
    omega

theorem lt_of_mem_digitRun? (read : digitRun? text = some digits) : ∀ d ∈ digits, d < 10 := by
  unfold digitRun? at read
  split at read
  · cases read
  · clear * - read
    induction text generalizing digits with
    | nil =>
      cases read
      simp
    | cons c text ih =>
      rw [List.mapM_cons] at read
      obtain ⟨value, first, read⟩ := Option.bind_eq_some_iff.1 read
      obtain ⟨others, rest, read⟩ := Option.bind_eq_some_iff.1 read
      cases read
      exact List.forall_mem_cons.2 ⟨digitValue?_lt first, ih rest⟩

/-- So many digits make no larger number. -/
private theorem valueOfDigits_lt (small : ∀ d ∈ digits, d < 10) :
    valueOfDigits digits < 10 ^ digits.length := by
  induction digits using List.reverseRecOn with
  | nil => simp [valueOfDigits]
  | append_singleton front d ih =>
    have here := small d (by simp)
    have before := ih fun d among => small d (by simp [among])
    have value : valueOfDigits (front ++ [d]) = 10 * valueOfDigits front + d := by
      simp [valueOfDigits]
    rw [value, List.length_append, List.length_singleton, Nat.pow_succ]
    omega

theorem isShort_of_digits (small : ∀ d ∈ digits, d < 10) (few : digits.length ≤ maxDigits) :
    IsShort (valueOfDigits digits) := by
  have bound : valueOfDigits digits < 10 ^ maxDigits :=
    Nat.lt_of_lt_of_le (valueOfDigits_lt small) (Nat.pow_le_pow_right (by decide) few)
  exact isShort_natCast.2 ((Nat.length_toDigits_le_iff (by decide) (by decide)).2 bound)

end ContainerLogs.Text
