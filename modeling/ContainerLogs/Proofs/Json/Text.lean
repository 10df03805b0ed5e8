import ContainerLogs.Json.Text
import ContainerLogs.Proofs.Toml.Text

/-!
Texts in JSON are read as numbers of characters first, and two surrogates are then put together to
one character. Every character is read from the units it was written as, the written form ends at
the first quote that stands without a backslash, and all of it is plain: from the space to `~`.
-/
namespace ContainerLogs.Json

/-- The characters from the space to `~`, which stand for themselves on every terminal. -/
def IsPlain (c : Char) : Prop := ' ' ≤ c ∧ c ≤ '~'

instance (c : Char) : Decidable (IsPlain c) := inferInstanceAs (Decidable (_ ∧ _))

def IsLead (unit : Nat) : Prop := 0xD800 ≤ unit ∧ unit < 0xDC00

instance (unit : Nat) : Decidable (IsLead unit) := inferInstanceAs (Decidable (_ ∧ _))

def IsTrail (unit : Nat) : Prop := 0xDC00 ≤ unit ∧ unit < 0xE000

instance (unit : Nat) : Decidable (IsTrail unit) := inferInstanceAs (Decidable (_ ∧ _))

/-- The unit with these hexadecimal digits. -/
def unit? (digits : List Char) : Option Nat :=
  (digits.mapM Toml.TextForm.hexValue?).map fun values =>
    values.foldl (fun n digit => 16 * n + digit) 0

/-- The character that a mark behind a backslash stands for. -/
def marked? (mark : Char) : Option Char :=
  if mark = '"' ∨ mark = '\\' ∨ mark = '/' then some mark
  else if mark = 'b' then some (Char.ofNat 8)
  else if mark = 'f' then some (Char.ofNat 12)
  else if mark = 'n' then some '\n'
  else if mark = 'r' then some '\r'
  else if mark = 't' then some '\t'
  else none

/-- The units of a text up to its closing quote, and what follows. Controls may not stand as they
are. -/
def readUnits : List Char → Option (List Nat × List Char)
  | [] => none
  | '"' :: rest => some ([], rest)
  | '\\' :: 'u' :: a :: b :: c :: d :: rest => do
      let unit ← unit? [a, b, c, d]
      let (units, rest) ← readUnits rest
      some (unit :: units, rest)
  | '\\' :: mark :: rest => do
      let c ← marked? mark
      let (units, rest) ← readUnits rest
      some (c.toNat :: units, rest)
  | c :: rest => do
      let (units, rest) ← readUnits rest
      if c.toNat < 32 then none else some (c.toNat :: units, rest)

/-- The text of units: a lead and a trail surrogate make one character, and other surrogates
none. -/
def textOfUnits? : List Nat → Option (List Char)
  | [] => some []
  | unit :: rest =>
      if unit.isValidChar then (textOfUnits? rest).map (Char.ofNat unit :: ·)
      else match rest with
        | [] => none
        | trail :: rest =>
            if IsLead unit ∧ IsTrail trail then
              (textOfUnits? rest).map
                (Char.ofNat (0x10000 + 0x400 * (unit - 0xD800) + (trail - 0xDC00)) :: ·)
            else none

/-- A text after its opening quote, and what follows its closing one. -/
def readText (chars : List Char) : Option (List Char × List Char) := do
  let (units, rest) ← readUnits chars
  let text ← textOfUnits? units
  some (text, rest)

/-- The units that a character is written as. -/
def units (c : Char) : List Nat :=
  if c.toNat < 0x10000 then [c.toNat]
  else [0xD800 + (c.toNat - 0x10000) / 0x400, 0xDC00 + (c.toNat - 0x10000) % 0x400]

private theorem toNat_lt (c : Char) : c.toNat < 0x110000 := by
  have valid : c.toNat.isValidChar := c.valid
  omega

private theorem unit?_hexDigits {n : Nat} (low : n < 0x10000) :
    unit? (Text.hexDigits 4 n) = some n := by
  have whole : 16 * (16 * (16 * (n / 4096 % 16) + n / 256 % 16) + n / 16 % 16) + n % 16 = n := by
    omega
  simp [unit?, Toml.TextForm.mapM_hexDigits, whole]

/-- An escaped unit is read as itself. -/
private theorem readUnits_unitEscape {n : Nat} (low : n < 0x10000) (rest : List Char) :
    readUnits (unitEscape n ++ rest) =
      (readUnits rest).map fun (units, rest) => (n :: units, rest) := by
  have read := unit?_hexDigits low
  have digits : Text.hexDigits 4 n = [Text.hexDigit (n / 16 / 16 / 16 % 16),
      Text.hexDigit (n / 16 / 16 % 16), Text.hexDigit (n / 16 % 16), Text.hexDigit (n % 16)] := rfl
  rw [digits] at read
  have chars : unitEscape n ++ rest = '\\' :: 'u' :: Text.hexDigit (n / 16 / 16 / 16 % 16) ::
      Text.hexDigit (n / 16 / 16 % 16) :: Text.hexDigit (n / 16 % 16) :: Text.hexDigit (n % 16) ::
        rest := rfl
  rw [chars, readUnits, read]
  cases readUnits rest <;> rfl

/-- A marked character is read as the character that its mark stands for. -/
private theorem readUnits_marked {mark c : Char} (marks : marked? mark = some c)
    (rest : List Char) :
    readUnits ('\\' :: mark :: rest) =
      (readUnits rest).map fun (units, rest) => (c.toNat :: units, rest) := by
  have other : mark ≠ 'u' := by
    rintro rfl
    cases marks
  rw [readUnits, marks]
  · cases readUnits rest <;> rfl
  · exact fun _ _ _ _ _ same => absurd same other

/-- A character that is neither quote nor backslash nor control stands for itself. -/
private theorem readUnits_plain {c : Char} (quote : c ≠ '"') (backslash : c ≠ '\\')
    (printed : 32 ≤ c.toNat) (rest : List Char) :
    readUnits (c :: rest) =
      (readUnits rest).map fun (units, rest) => (c.toNat :: units, rest) := by
  rw [readUnits]
  · cases readUnits rest with
    | none => rfl
    | some taken => exact if_neg (Nat.not_lt.2 printed)
  · exact quote
  · exact fun _ _ _ _ _ same => absurd same backslash
  · exact fun _ _ same => absurd same backslash

/-- A character is read as the units it was written as. -/
private theorem readUnits_escapedChar (c : Char) (rest : List Char) :
    readUnits (escapedChar c ++ rest) =
      (readUnits rest).map fun (more, rest) => (units c ++ more, rest) := by
  have alone (low : c.toNat < 0x10000) : units c = [c.toNat] := if_pos low
  unfold escapedChar
  split
  · rename_i marked
    have low : c.toNat < 0x10000 := by rcases marked with rfl | rfl <;> decide
    rw [alone low]
    exact readUnits_marked (if_pos (marked.imp_right .inl)) rest
  split
  · rename_i newline
    subst newline
    exact readUnits_marked rfl rest
  split
  · rename_i carriage
    subst carriage
    exact readUnits_marked rfl rest
  split
  · rename_i tab
    subst tab
    exact readUnits_marked rfl rest
  split
  · rename_i backspace
    obtain rfl : c = Char.ofNat 8 := by rw [← backspace, Char.ofNat_toNat]
    exact readUnits_marked rfl rest
  split
  · rename_i feed
    obtain rfl : c = Char.ofNat 12 := by rw [← feed, Char.ofNat_toNat]
    exact readUnits_marked rfl rest
  split
  · rename_i unmarked _ _ _ _ _ plain
    obtain ⟨quote, backslash⟩ := not_or.1 unmarked
    have printed : 32 ≤ c.toNat := plain.1
    have last : c.toNat ≤ 126 := plain.2
    rw [alone (by omega)]
    exact readUnits_plain quote backslash printed rest
  split
  · rename_i low
    rw [alone low]
    exact readUnits_unitEscape low rest
  · rename_i high
    have bound := toNat_lt c
    rw [units, if_neg high, List.append_assoc, readUnits_unitEscape (by omega),
      readUnits_unitEscape (by omega)]
    cases readUnits rest <;> rfl

/-- A unit that is no surrogate is a character of its own. -/
private theorem textOfUnits?_of_valid {unit : Nat} (valid : unit.isValidChar) (more : List Nat) :
    textOfUnits? (unit :: more) = (textOfUnits? more).map (Char.ofNat unit :: ·) := by
  cases more <;> simp only [textOfUnits?, if_pos valid]

/-- A character comes back from its units. -/
private theorem textOfUnits?_units (c : Char) (more : List Nat) :
    textOfUnits? (units c ++ more) = (textOfUnits? more).map (c :: ·) := by
  have valid : c.toNat.isValidChar := c.valid
  unfold units
  split
  · rw [List.singleton_append, textOfUnits?_of_valid valid, Char.ofNat_toNat]
  · rename_i high
    have bound := toNat_lt c
    have lead : IsLead (0xD800 + (c.toNat - 0x10000) / 0x400) := by
      constructor <;> omega
    have trail : IsTrail (0xDC00 + (c.toNat - 0x10000) % 0x400) := by
      constructor <;> omega
    have lone : ¬ (0xD800 + (c.toNat - 0x10000) / 0x400).isValidChar := by
      omega
    have whole : 0x10000 + 0x400 * (0xD800 + (c.toNat - 0x10000) / 0x400 - 0xD800) +
        (0xDC00 + (c.toNat - 0x10000) % 0x400 - 0xDC00) = c.toNat := by
      omega
    simp only [List.cons_append, List.nil_append]
    rw [textOfUnits?, if_neg lone, if_pos ⟨lead, trail⟩, whole, Char.ofNat_toNat]

private theorem readUnits_written (text rest : List Char) :
    readUnits (text.flatMap escapedChar ++ '"' :: rest) = some (text.flatMap units, rest) := by
  induction text with
  | nil => rfl
  | cons c text ih =>
    rw [List.flatMap_cons, List.append_assoc, readUnits_escapedChar, ih]
    rfl

private theorem textOfUnits?_written (text : List Char) :
    textOfUnits? (text.flatMap units) = some text := by
  induction text with
  | nil => rfl
  | cons c text ih => rw [List.flatMap_cons, textOfUnits?_units, ih, Option.map_some]

/-- A written text is read back up to its closing quote, whatever follows. -/
theorem readText_written (text rest : List Char) :
    readText (text.flatMap escapedChar ++ '"' :: rest) = some (text, rest) := by
  rw [readText, readUnits_written, Option.bind_eq_bind, Option.bind_some]
  simp only [textOfUnits?_written, Option.bind_eq_bind, Option.bind_some]

example : readText "\\uD83D\\ude00\\/\"".toList = some (['😀', '/'], []) := by decide +kernel

private theorem isPlain_hexDigit : ∀ n < 16, IsPlain (Text.hexDigit n) := by decide

private theorem isPlain_of_mem_hexDigits {width n : Nat} {c : Char}
    (among : c ∈ Text.hexDigits width n) : IsPlain c := by
  induction width generalizing n with
  | zero => cases among
  | succ width ih =>
    rcases List.mem_append.1 among with front | last
    · exact ih front
    · rw [List.mem_singleton.1 last]
      exact isPlain_hexDigit _ (Nat.mod_lt _ (by decide))

private theorem isPlain_of_mem_unitEscape {n : Nat} {c : Char} (among : c ∈ unitEscape n) :
    IsPlain c := by
  rcases List.mem_cons.1 among with rfl | among
  · decide
  rcases List.mem_cons.1 among with rfl | digit
  · decide
  · exact isPlain_of_mem_hexDigits digit

/-- Whatever a character is, it is written with plain ones. -/
private theorem isPlain_of_mem_escapedChar {c d : Char} (among : d ∈ escapedChar c) :
    IsPlain d := by
  have pair {mark : Char} (plain : IsPlain mark) (among : d ∈ ['\\', mark]) : IsPlain d := by
    rcases List.mem_cons.1 among with rfl | last
    · decide
    · rw [List.mem_singleton.1 last]
      exact plain
  unfold escapedChar at among
  split at among
  · rename_i marked
    exact pair (by rcases marked with rfl | rfl <;> decide) among
  split at among
  · exact pair (by decide) among
  split at among
  · exact pair (by decide) among
  split at among
  · exact pair (by decide) among
  split at among
  · exact pair (by decide) among
  split at among
  · exact pair (by decide) among
  split at among
  · rename_i plain
    rw [List.mem_singleton.1 among]
    exact plain
  split at among
  · exact isPlain_of_mem_unitEscape among
  · rcases List.mem_append.1 among with lead | trail
    · exact isPlain_of_mem_unitEscape lead
    · exact isPlain_of_mem_unitEscape trail

theorem isPlain_of_mem_textChars {text : List Char} {c : Char} (among : c ∈ textChars text) :
    IsPlain c := by
  rcases List.mem_append.1 among with front | last
  · rcases List.mem_cons.1 front with rfl | inside
    · decide
    · obtain ⟨_, _, written⟩ := List.mem_flatMap.1 inside
      exact isPlain_of_mem_escapedChar written
  · rw [List.mem_singleton.1 last]
    decide

end ContainerLogs.Json
