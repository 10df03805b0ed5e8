import ContainerLogs.Json.Document
import ContainerLogs.Proofs.Json.Text
import ContainerLogs.Proofs.Text.Numeral

/-!
Documents are read back from the line they are written on. The reader passes over blanks, takes what
the first character announces and goes on inside it; a bound on its steps, which the length of the
text always meets, is what it recurses on. A line is plain throughout, so no line ends inside it.
-/
namespace ContainerLogs.Json

def isBlank (c : Char) : Bool := c = ' ' ∨ c = '\t' ∨ c = '\n' ∨ c = '\r'

def skipBlanks (chars : List Char) : List Char := chars.dropWhile isBlank

/-- A run of digits in front, the first of several no zero. -/
def readDigits (chars : List Char) : Option (Nat × List Char) :=
  let digits := chars.takeWhile Char.isDigit
  if digits = [] ∨ digits.head? = some '0' ∧ digits.length ≠ 1 then none
  else some (Nat.ofDigitChars 10 digits 0, chars.dropWhile Char.isDigit)

def readNumber : List Char → Option (Int × List Char)
  | '-' :: chars => (readDigits chars).map fun (n, rest) => (-n, rest)
  | chars => (readDigits chars).map fun (n, rest) => (n, rest)

/-- The name of a field with the colon behind it. -/
def readName (chars : List Char) : Option (String × List Char) :=
  match skipBlanks chars with
  | '"' :: rest => do
      let (name, rest) ← readText rest
      match skipBlanks rest with
      | ':' :: rest => some (String.ofList name, rest)
      | _ => none
  | _ => none

mutual

/-- A document in front, and what follows it. -/
def readValue : (bound : Nat) → List Char → Option (Document × List Char)
  | 0, _ => none
  | bound + 1, chars =>
      match skipBlanks chars with
      | '"' :: rest => (readText rest).map fun (text, rest) => (.text (String.ofList text), rest)
      | '[' :: rest =>
          match skipBlanks rest with
          | ']' :: rest => some (.list [], rest)
          | _ => (readItems bound rest).map fun (items, rest) => (.list items, rest)
      | '\x7b' :: rest =>
          match skipBlanks rest with
          | '\x7d' :: rest => some (.object [], rest)
          | _ => (readFields bound rest).map fun (fields, rest) => (.object fields, rest)
      | chars => (readNumber chars).map fun (n, rest) => (.number n, rest)

/-- At least one item, up to the closing bracket. -/
def readItems : (bound : Nat) → List Char → Option (List Document × List Char)
  | 0, _ => none
  | bound + 1, chars => do
      let (item, rest) ← readValue bound chars
      match skipBlanks rest with
      | ',' :: rest => (readItems bound rest).map fun (items, rest) => (item :: items, rest)
      | ']' :: rest => some ([item], rest)
      | _ => none

/-- At least one field, up to the closing brace. -/
def readFields : (bound : Nat) → List Char → Option (List (String × Document) × List Char)
  | 0, _ => none
  | bound + 1, chars => do
      let (name, rest) ← readName chars
      let (value, rest) ← readValue bound rest
      match skipBlanks rest with
      | ',' :: rest => (readFields bound rest).map fun (fields, rest) => ((name, value) :: fields, rest)
      | '\x7d' :: rest => some ([(name, value)], rest)
      | _ => none

end

/-- The document that a text holds, with nothing but blanks around it. -/
def Document.read? (text : String) : Option Document :=
  match readValue text.toList.length text.toList with
  | some (document, rest) => if skipBlanks rest = [] then some document else none
  | none => none

/-- A text that a number in front of it ends at. -/
def EndsNumber (rest : List Char) : Prop := ∀ c ∈ rest.head?, c.isDigit = false

private theorem endsNumber_cons {c : Char} {rest : List Char} (other : c.isDigit = false) :
    EndsNumber (c :: rest) := by
  rintro _ ⟨⟩
  exact other

/-- No written number has a zero in front of other digits. -/
private theorem eq_zero_of_head?_toDigits {n : Nat} (zero : (Nat.toDigits 10 n).head? = some '0') :
    n = 0 := by
  induction n using Nat.strongRecOn with
  | _ n ih =>
    rcases Nat.lt_or_ge n 10 with small | large
    · rw [Nat.toDigits_of_lt_base small] at zero
      have alone : ∀ n < 10, [n.digitChar].head? = some '0' → n = 0 := by decide
      exact alone n small zero
    · rw [Nat.toDigits_of_base_le (by decide) large, List.head?_append] at zero
      obtain ⟨first, front⟩ : ∃ c, (Nat.toDigits 10 (n / 10)).head? = some c :=
        Option.ne_none_iff_exists'.1 (mt List.head?_eq_none_iff.1 Nat.toDigits_ne_nil)
      rw [front, Option.some_or] at zero
      have := ih (n / 10) (by omega) (front.trans zero)
      omega

private theorem readDigits_toDigits (n : Nat) {rest : List Char} (ends : EndsNumber rest) :
    readDigits (Nat.toDigits 10 n ++ rest) = some (n, rest) := by
  have digits : ∀ c ∈ Nat.toDigits 10 n, c.isDigit = true := fun c among =>
    Nat.isDigit_of_mem_toDigits (by decide) (by decide) among
  have none : rest.takeWhile Char.isDigit = [] ∧ rest.dropWhile Char.isDigit = rest := by
    cases rest with
    | nil => exact ⟨rfl, rfl⟩
    | cons c rest =>
      have other := ends c rfl
      simp [other]
  have front : (Nat.toDigits 10 n ++ rest).takeWhile Char.isDigit = Nat.toDigits 10 n := by
    rw [List.takeWhile_append_of_pos digits, none.1, List.append_nil]
  have back : (Nat.toDigits 10 n ++ rest).dropWhile Char.isDigit = rest := by
    rw [List.dropWhile_append_of_pos digits, none.2]
  have strict : ¬ (Nat.toDigits 10 n = [] ∨
      (Nat.toDigits 10 n).head? = some '0' ∧ (Nat.toDigits 10 n).length ≠ 1) := by
    rintro (empty | ⟨zero, several⟩)
    · exact Nat.toDigits_ne_nil empty
    · rw [eq_zero_of_head?_toDigits zero] at several
      exact several rfl
  simp only [readDigits, front, back, if_neg strict, Nat.ofDigitChars_ten_toDigits]

/-- A number is written as its digits, behind a sign if it is negative. -/
private theorem decimalChars_cases (n : Int) :
    (∃ k : Nat, n = k ∧ Text.decimalChars n = Nat.toDigits 10 k) ∨
      ∃ k : Nat, n = -k ∧ Text.decimalChars n = '-' :: Nat.toDigits 10 k := by
  cases n with
  | ofNat k =>
    have hasDigits := List.length_pos_iff.2 (Nat.toDigits_ne_nil (b := 10) (n := k))
    have filled : 1 - (Nat.toDigits 10 k).length = 0 := by omega
    exact .inl ⟨k, rfl, by simp [Text.decimalChars, Text.paddedChars, Text.padLeft, filled]⟩
  | negSucc k =>
    exact .inr ⟨k + 1, rfl, by simp [Text.decimalChars, Text.paddedChars, Text.padLeft]⟩

private theorem exists_toDigits (k : Nat) :
    ∃ c more, Nat.toDigits 10 k = c :: more ∧ c.isDigit = true := by
  obtain ⟨c, more, digits⟩ := List.exists_cons_of_ne_nil (Nat.toDigits_ne_nil (b := 10) (n := k))
  have among : c ∈ Nat.toDigits 10 k := by
    rw [digits]
    exact List.mem_cons_self
  exact ⟨c, more, digits, Nat.isDigit_of_mem_toDigits (by decide) (by decide) among⟩

private theorem readNumber_decimalChars (n : Int) {rest : List Char} (ends : EndsNumber rest) :
    readNumber (Text.decimalChars n ++ rest) = some (n, rest) := by
  obtain ⟨k, rfl, written⟩ | ⟨k, rfl, written⟩ := decimalChars_cases n
  · obtain ⟨c, more, digits, digit⟩ := exists_toDigits k
    have unsigned : ∀ chars, Nat.toDigits 10 k ++ rest ≠ '-' :: chars := by
      intro chars signed
      rw [digits] at signed
      rw [(List.cons.inj signed).1] at digit
      cases digit
    rw [written, readNumber, readDigits_toDigits k ends]
    · rfl
    · exact unsigned
  · rw [written, List.cons_append, readNumber, readDigits_toDigits k ends]
    rfl

/-- The first character of a number. -/
private theorem head_decimalChars (n : Int) :
    ∃ c more, Text.decimalChars n = c :: more ∧ (c = '-' ∨ c.isDigit = true) := by
  obtain ⟨k, -, written⟩ | ⟨k, -, written⟩ := decimalChars_cases n
  · obtain ⟨c, more, digits, digit⟩ := exists_toDigits k
    exact ⟨c, more, written.trans digits, .inr digit⟩
  · exact ⟨'-', _, written, .inl rfl⟩

private theorem isBlank_of_start {c : Char} (start : c = '-' ∨ c.isDigit = true) :
    isBlank c = false := by
  by_contra blank
  simp only [isBlank, decide_eq_true_eq, Bool.not_eq_false] at blank
  rcases blank with rfl | rfl | rfl | rfl <;> exact absurd start (by decide)

private theorem skipBlanks_cons {c : Char} (solid : isBlank c = false) (chars : List Char) :
    skipBlanks (c :: chars) = c :: chars :=
  List.dropWhile_cons_of_neg (by simp [solid])

/-- A number in front begins with neither blank, quote nor bracket. -/
private theorem readValue_number (n : Int) {rest : List Char} (ends : EndsNumber rest)
    (bound : Nat) :
    readValue (bound + 1) (Text.decimalChars n ++ rest) = some (.number n, rest) := by
  have number := readNumber_decimalChars n ends
  obtain ⟨c, more, written, start⟩ := head_decimalChars n
  rw [written, List.cons_append] at number ⊢
  rw [readValue, skipBlanks_cons (isBlank_of_start start)]
  split
  · rename_i same
    cases same
    exact absurd start (by decide)
  · rename_i same
    cases same
    exact absurd start (by decide)
  · rename_i same
    cases same
    exact absurd start (by decide)
  · rw [number]
    rfl

private theorem readValue_blank (bound : Nat) (chars : List Char) :
    readValue bound (' ' :: chars) = readValue bound chars := by
  cases bound <;> rfl

private theorem readItems_blank (bound : Nat) (chars : List Char) :
    readItems bound (' ' :: chars) = readItems bound chars := by
  cases bound with
  | zero => rfl
  | succ bound => rw [readItems, readItems, readValue_blank]

private theorem readFields_blank (bound : Nat) (chars : List Char) :
    readFields bound (' ' :: chars) = readFields bound chars := by
  cases bound <;> rfl

/-- The name of a field is read up to its value. -/
private theorem readName_written (name : String) (rest : List Char) :
    readName (textChars name.toList ++ ": ".toList ++ rest) = some (name, ' ' :: rest) := by
  have chars : textChars name.toList ++ ": ".toList ++ rest =
      '"' :: (name.toList.flatMap escapedChar ++ '"' :: ':' :: ' ' :: rest) := by
    simp [textChars]
  rw [chars]
  have solid := skipBlanks_cons (c := '"') rfl
    (name.toList.flatMap escapedChar ++ '"' :: ':' :: ' ' :: rest)
  rw [readName, solid]
  simp only [readText_written, Option.bind_eq_bind, Option.bind_some, String.ofList_toList]
  rfl

/-- No written document begins with a blank or as if a list ended. -/
private theorem head_line (document : Document) :
    ∃ c more, document.line = c :: more ∧ isBlank c = false ∧ c ≠ ']' := by
  cases document with
  | text value => exact ⟨'"', _, rfl, rfl, by decide⟩
  | number n =>
    obtain ⟨c, more, written, start⟩ := head_decimalChars n
    refine ⟨c, more, by rw [Document.line, written], isBlank_of_start start, ?_⟩
    rintro rfl
    exact absurd start (by decide)
  | list items => exact ⟨'[', _, rfl, rfl, by decide⟩
  | object fields => exact ⟨'\x7b', _, rfl, rfl, by decide⟩

private theorem head_lineItems (item : Document) (items : List Document) :
    ∃ c more, Document.lineItems (item :: items) = c :: more ∧ isBlank c = false ∧ c ≠ ']' := by
  obtain ⟨c, more, written, first⟩ := head_line item
  cases items with
  | nil => exact ⟨c, more, by rw [Document.lineItems, written], first⟩
  | cons next items =>
    exact ⟨c, more ++ ", ".toList ++ Document.lineItems (next :: items),
      by simp [Document.lineItems, written], first⟩

private theorem head_lineFields (name : String) (value : Document)
    (fields : List (String × Document)) :
    ∃ more, Document.lineFields ((name, value) :: fields) = '"' :: more := by
  cases fields with
  | nil => exact ⟨_, rfl⟩
  | cons next fields => exact ⟨_, rfl⟩

mutual

/-- A document is read back from its line, if the text behind does not go on with digits. -/
private theorem readValue_line (document : Document) (bound : Nat) (rest : List Char)
    (room : document.line.length ≤ bound) (ends : EndsNumber rest) :
    readValue bound (document.line ++ rest) = some (document, rest) := by
  obtain ⟨first, others, start, -⟩ := head_line document
  obtain ⟨bound, rfl⟩ : ∃ n, bound = n + 1 := by
    refine Nat.exists_eq_add_one.2 (Nat.lt_of_lt_of_le ?_ room)
    rw [start]
    exact Nat.zero_lt_succ _
  match document with
  | .text value =>
    have chars : (Document.text value).line ++ rest =
        '"' :: (value.toList.flatMap escapedChar ++ '"' :: rest) := by
      simp [Document.line, textChars]
    rw [chars, readValue, skipBlanks_cons rfl]
    simp only [readText_written, Option.map_some, String.ofList_toList]
  | .number n => exact readValue_number n ends bound
  | .list [] => rfl
  | .list (item :: items) =>
    have chars : (Document.list (item :: items)).line ++ rest =
        '[' :: (Document.lineItems (item :: items) ++ ']' :: rest) := by
      simp [Document.line]
    have inside := readItems_line item items bound rest (by
      simp only [Document.line, List.length_append, List.length_cons, List.length_nil] at room
      omega)
    obtain ⟨c, more, begins, solid, inner⟩ := head_lineItems item items
    rw [begins, List.cons_append] at chars inside
    rw [chars, readValue, skipBlanks_cons rfl]
    simp only [skipBlanks_cons solid]
    split
    · rename_i closed
      exact absurd (List.cons.inj closed).1 inner
    · rw [inside]
      rfl
  | .object [] => rfl
  | .object ((name, value) :: fields) =>
    have chars : (Document.object ((name, value) :: fields)).line ++ rest =
        '\x7b' :: (Document.lineFields ((name, value) :: fields) ++ '\x7d' :: rest) := by
      simp [Document.line]
    have inside := readFields_line name value fields bound rest (by
      simp only [Document.line, List.length_append, List.length_cons, List.length_nil] at room
      omega)
    obtain ⟨more, begins⟩ := head_lineFields name value fields
    rw [begins, List.cons_append] at chars inside
    rw [chars, readValue, skipBlanks_cons rfl]
    simp only [skipBlanks_cons (c := '"') rfl, inside, Option.map_some]
    rfl
termination_by bound

private theorem readItems_line (item : Document) (items : List Document) (bound : Nat)
    (rest : List Char) (room : (Document.lineItems (item :: items)).length < bound) :
    readItems bound (Document.lineItems (item :: items) ++ ']' :: rest) =
      some (item :: items, rest) := by
  match items, bound with
  | [], bound + 1 =>
    rw [Document.lineItems] at room ⊢
    have here := readValue_line item bound (']' :: rest) (by omega) (endsNumber_cons rfl)
    rw [readItems, here]
    rfl
  | next :: items, bound + 1 =>
    have chars : Document.lineItems (item :: next :: items) ++ ']' :: rest =
        item.line ++ ',' :: ' ' :: (Document.lineItems (next :: items) ++ ']' :: rest) := by
      simp [Document.lineItems]
    have size : (Document.lineItems (item :: next :: items)).length =
        item.line.length + 2 + (Document.lineItems (next :: items)).length := by
      simp only [Document.lineItems, List.length_append]
      rfl
    have here := readValue_line item bound
      (',' :: ' ' :: (Document.lineItems (next :: items) ++ ']' :: rest)) (by omega)
      (endsNumber_cons rfl)
    have more := readItems_line next items bound rest (by omega)
    rw [chars, readItems, here]
    rw [← readItems_blank] at more
    exact congrArg (Option.map _) more
termination_by bound

private theorem readFields_line (name : String) (value : Document)
    (fields : List (String × Document)) (bound : Nat) (rest : List Char)
    (room : (Document.lineFields ((name, value) :: fields)).length < bound) :
    readFields bound (Document.lineFields ((name, value) :: fields) ++ '\x7d' :: rest) =
      some ((name, value) :: fields, rest) := by
  match fields, bound with
  | [], bound + 1 =>
    have chars : Document.lineFields [(name, value)] ++ '\x7d' :: rest =
        textChars name.toList ++ ": ".toList ++ (value.line ++ '\x7d' :: rest) := by
      simp [Document.lineFields]
    have size : (Document.lineFields [(name, value)]).length =
        (textChars name.toList).length + 2 + value.line.length := by
      simp only [Document.lineFields, List.length_append]
      rfl
    have here := readValue_line value bound ('\x7d' :: rest) (by omega) (endsNumber_cons rfl)
    rw [chars, readFields, readName_written]
    simp only [Option.bind_eq_bind, Option.bind_some, readValue_blank, here]
    rfl
  | (other, next) :: fields, bound + 1 =>
    have chars : Document.lineFields ((name, value) :: (other, next) :: fields) ++ '\x7d' :: rest =
        textChars name.toList ++ ": ".toList ++ (value.line ++
          ',' :: ' ' :: (Document.lineFields ((other, next) :: fields) ++ '\x7d' :: rest)) := by
      simp [Document.lineFields]
    have size : (Document.lineFields ((name, value) :: (other, next) :: fields)).length =
        (textChars name.toList).length + 2 + value.line.length + 2 +
          (Document.lineFields ((other, next) :: fields)).length := by
      simp only [Document.lineFields, List.length_append]
      rfl
    have here := readValue_line value bound
      (',' :: ' ' :: (Document.lineFields ((other, next) :: fields) ++ '\x7d' :: rest))
      (by omega) (endsNumber_cons rfl)
    have more := readFields_line other next fields bound rest (by omega)
    rw [chars, readFields, readName_written]
    simp only [Option.bind_eq_bind, Option.bind_some, readValue_blank, here]
    rw [← readFields_blank] at more
    exact congrArg (Option.map _) more
termination_by bound

end

theorem read?_oneLine (document : Document) : Document.read? document.oneLine = some document := by
  have whole := readValue_line document _ [] (Nat.le_refl _) (by rintro _ ⟨⟩)
  rw [List.append_nil] at whole
  rw [Document.read?, Document.oneLine, String.toList_ofList, whole]
  exact if_pos rfl

private theorem isPlain_of_mem_decimalChars {n : Int} {c : Char} (among : c ∈ Text.decimalChars n) :
    IsPlain c := by
  have plain (k : Nat) (digit : c ∈ Nat.toDigits 10 k) : IsPlain c := by
    obtain ⟨low, high⟩ := Char.isDigit_iff_toNat.1
      (Nat.isDigit_of_mem_toDigits (by decide) (by decide) digit)
    exact ⟨Nat.le_trans (by decide) low, Nat.le_trans high (by decide)⟩
  obtain ⟨k, -, written⟩ | ⟨k, -, written⟩ := decimalChars_cases n
  · exact plain k (written ▸ among)
  · rcases List.mem_cons.1 (written ▸ among) with rfl | digit
    · decide
    · exact plain k digit

private theorem isPlain_of_mem_comma : ∀ c ∈ ", ".toList, IsPlain c :=
  List.forall_mem_cons.2 ⟨by decide, List.forall_mem_singleton.2 (by decide)⟩

private theorem isPlain_of_mem_colon : ∀ c ∈ ": ".toList, IsPlain c :=
  List.forall_mem_cons.2 ⟨by decide, List.forall_mem_singleton.2 (by decide)⟩

mutual

/-- A document's line is plain, whatever texts it holds. -/
theorem isPlain_of_mem_line (document : Document) : ∀ c ∈ document.line, IsPlain c := by
  match document with
  | .text value => exact fun c among => isPlain_of_mem_textChars among
  | .number n => exact fun c among => isPlain_of_mem_decimalChars among
  | .list items =>
    have inside := isPlain_of_mem_lineItems items
    exact List.forall_mem_append.2
      ⟨List.forall_mem_cons.2 ⟨by decide, inside⟩, List.forall_mem_singleton.2 (by decide)⟩
  | .object fields =>
    have inside := isPlain_of_mem_lineFields fields
    exact List.forall_mem_append.2
      ⟨List.forall_mem_cons.2 ⟨by decide, inside⟩, List.forall_mem_singleton.2 (by decide)⟩

private theorem isPlain_of_mem_lineItems (items : List Document) :
    ∀ c ∈ Document.lineItems items, IsPlain c := by
  match items with
  | [] => exact fun c among => nomatch among
  | [item] =>
    rw [Document.lineItems]
    exact isPlain_of_mem_line item
  | item :: next :: items =>
    have here := isPlain_of_mem_line item
    have more := isPlain_of_mem_lineItems (next :: items)
    have front := List.forall_mem_append.2 ⟨here, isPlain_of_mem_comma⟩
    exact List.forall_mem_append.2 ⟨front, more⟩

private theorem isPlain_of_mem_lineFields (fields : List (String × Document)) :
    ∀ c ∈ Document.lineFields fields, IsPlain c := by
  match fields with
  | [] => exact fun c among => nomatch among
  | [(name, value)] =>
    have named : ∀ c ∈ textChars name.toList, IsPlain c := fun c => isPlain_of_mem_textChars
    have front := List.forall_mem_append.2 ⟨named, isPlain_of_mem_colon⟩
    exact List.forall_mem_append.2 ⟨front, isPlain_of_mem_line value⟩
  | (name, value) :: next :: fields =>
    have named : ∀ c ∈ textChars name.toList, IsPlain c := fun c => isPlain_of_mem_textChars
    have front := List.forall_mem_append.2 ⟨named, isPlain_of_mem_colon⟩
    have here := List.forall_mem_append.2 ⟨front, isPlain_of_mem_line value⟩
    have more := isPlain_of_mem_lineFields (next :: fields)
    exact List.forall_mem_append.2 ⟨List.forall_mem_append.2 ⟨here, isPlain_of_mem_comma⟩, more⟩

end

end ContainerLogs.Json
