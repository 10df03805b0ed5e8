import ContainerLogs.Proofs.Toml.Text
import ContainerLogs.Toml.Printer
import Mathlib.Data.List.TakeDrop

/-!
Bare names, texts and lists of texts are read as they were written, with whatever stands behind them
left to be read.
-/
namespace ContainerLogs.Toml

open Settings (Value)
open Printer (keyChars valueChars? itemChars? pad)

/-- A name that is written without quotes. -/
structure IsBare (name : String) : Prop where
  nonempty : name ≠ ""
  chars : ∀ c ∈ name.toList, isBareChar c = true

instance (name : String) : Decidable (IsBare name) :=
  decidable_of_iff (name ≠ "" ∧ name.toList.all isBareChar = true)
    ⟨fun h => ⟨h.1, List.all_eq_true.1 h.2⟩, fun h => ⟨h.nonempty, List.all_eq_true.2 h.chars⟩⟩

/-- A text or a list of texts. -/
inductive IsPlain : Value → Prop where
  | text (text : String) : IsPlain (.text text)
  | list (texts : List String) : IsPlain (.list (texts.map .text))

section Key

variable {name : String} (bare : IsBare name)
include bare

theorem IsBare.keyChars_eq : keyChars name = name.toList := by
  obtain ⟨nonempty, chars⟩ := bare
  simp [keyChars, nonempty, List.all_eq_true.2 chars]

theorem IsBare.toList_eq : ∃ first more, name.toList = first :: more ∧ isBareChar first = true := by
  obtain ⟨first, more, same⟩ :=
    List.exists_cons_of_ne_nil (mt String.toList_eq_nil_iff.1 bare.nonempty)
  exact ⟨first, more, same, bare.chars first (by simp [same])⟩

private theorem span_bare {c : Char} (ends : isBareChar c = false) (rest : List Char) :
    (name.toList ++ c :: rest).span isBareChar = (name.toList, c :: rest) := by
  rw [List.span_eq_takeWhile_dropWhile, List.takeWhile_append_of_pos bare.chars,
    List.dropWhile_append_of_pos bare.chars]
  simp [ends]

/-- A bare name is not mistaken for a text in quotes. -/
private theorem readPart_bare {next : Char} (ends : isBareChar next = false) (others : List Char) :
    Key.readPart (name.toList ++ next :: others) = .ok (name, next :: others) := by
  obtain ⟨first, more, chars, start⟩ := bare.toList_eq
  have taken : Key.bare (name.toList ++ next :: others) = (name.toList, next :: others) :=
    span_bare bare ends others
  rw [chars, List.cons_append] at taken ⊢
  unfold Key.readPart
  split
  · rename_i same
    cases (List.cons.inj same).1
    cases start
  · rename_i same
    cases (List.cons.inj same).1
    cases start
  · rw [taken]
    simp only
    rw [← chars, String.ofList_toList]

/-- A key of one bare name is read, with the blanks behind it. -/
theorem read_bare {bound : Nat} (room : 0 < bound) {next c : Char} {others rest : List Char}
    (ends : isBareChar next = false) (skipped : skipSpaces (next :: others) = c :: rest)
    (last : c ≠ '.') : Key.read bound (name.toList ++ next :: others) = .ok ([name], c :: rest) := by
  obtain ⟨bound, rfl⟩ := Nat.exists_eq_add_one_of_ne_zero (Nat.ne_of_gt room)
  simp only [Key.read, readPart_bare bare ends, bind, Except.bind, skipped]
  split
  · rename_i same
    exact absurd (List.cons.inj same).1 last
  · rfl

end Key

/-- What is written for the items of a list, each on a line of its own. -/
def textLines (depth : Nat) (texts : List String) : List Char :=
  texts.flatMap fun text => pad depth ++ TextForm.writtenChars text.toList ++ [',', '\n']

private theorem itemChars?_texts (depth : Nat) (texts : List String) :
    itemChars? depth (texts.map .text) = some (textLines depth texts) := by
  induction texts with
  | nil => rfl
  | cons text texts ih =>
    simp [itemChars?, valueChars?, ih, textLines]

/-- What is written for a list of texts. -/
def listChars : List String → List Char
  | [] => ['[', ']']
  | texts => '[' :: '\n' :: textLines 1 texts ++ [']']

private theorem valueChars?_texts (texts : List String) :
    valueChars? 0 (.list (texts.map .text)) = some (listChars texts) := by
  cases texts with
  | nil => rfl
  | cons text texts =>
    have items := itemChars?_texts 1 (text :: texts)
    rw [List.map_cons] at items ⊢
    simp [valueChars?, items, listChars, pad]

private theorem skipLayout_eq {chars : List Char} {c : Char} {rest : List Char}
    (blanks : chars.dropWhile TextForm.isSpaceOrNewline = c :: rest) (other : c ≠ '#') :
    skipLayout chars = .ok (c :: rest) := by
  rw [skipLayout]
  split
  · rename_i same
    rw [blanks] at same
    exact absurd (List.cons.inj same).1 other
  · rw [blanks]

private theorem writtenChars_append (text rest : List Char) : TextForm.writtenChars text ++ rest =
    '"' :: (text.flatMap TextForm.escapedChar ++ '"' :: rest) := by
  simp [TextForm.writtenChars]

/-- A text is read as a value. -/
private theorem readValue_text {bound : Nat} (enough : 0 < bound) (room : Nat) (text : String)
    (rest : List Char) (apart : rest.head? ≠ some '"') :
    readValue bound room (TextForm.writtenChars text.toList ++ rest) = .ok (.text text, rest) := by
  obtain ⟨bound, rfl⟩ := Nat.exists_eq_add_one_of_ne_zero (Nat.ne_of_gt enough)
  have read := TextForm.read?_written text.toList apart
  rw [writtenChars_append] at read ⊢
  simp [readValue, readScalar?, read, Except.map]

/-- What stands before an item or before the closing bracket is skipped. -/
private theorem skipLayout_lines (texts : List String) (rest : List Char) :
    skipLayout ('\n' :: textLines 1 texts ++ ']' :: rest) =
      .ok (match texts with
        | [] => ']' :: rest
        | text :: texts => TextForm.writtenChars text.toList ++
            ',' :: '\n' :: textLines 1 texts ++ ']' :: rest) := by
  cases texts with
  | nil => exact skipLayout_eq rfl (by decide)
  | cons text texts =>
    refine skipLayout_eq ?_ (by decide)
    simp [textLines, pad, TextForm.writtenChars, List.replicate, TextForm.isSpaceOrNewline,
      TextForm.isSpace]

/-- The items of a list are read up to its closing bracket. -/
private theorem readItems_texts {bound : Nat} {texts : List String} (enough : texts.length < bound)
    (room : Nat) (rest : List Char) : ∃ start,
    skipLayout ('\n' :: textLines 1 texts ++ ']' :: rest) = .ok start ∧
      readItems bound room start = .ok (texts.map .text, rest) := by
  induction texts generalizing bound with
  | nil =>
    obtain ⟨bound, rfl⟩ := Nat.exists_eq_add_one_of_ne_zero (Nat.ne_of_gt enough)
    exact ⟨_, skipLayout_lines [] rest, by simp [readItems]⟩
  | cons text texts ih =>
    obtain ⟨bound, rfl⟩ : ∃ smaller, bound = smaller + 1 := ⟨bound - 1, by omega⟩
    have fewer : texts.length < bound := by simpa using enough
    obtain ⟨start, skipped, read⟩ := ih fewer
    refine ⟨_, skipLayout_lines (text :: texts) rest, ?_⟩
    have item := readValue_text (Nat.zero_lt_of_lt fewer) room text
      (',' :: '\n' :: textLines 1 texts ++ ']' :: rest) (by simp)
    have comma : skipLayout (',' :: '\n' :: textLines 1 texts ++ ']' :: rest) =
        .ok (',' :: '\n' :: textLines 1 texts ++ ']' :: rest) := skipLayout_eq rfl (by decide)
    simp only [List.append_assoc, List.cons_append] at item comma skipped ⊢
    rw [writtenChars_append] at item ⊢
    simp [readItems, item, comma, skipped, read, bind, Except.bind]

private theorem length_le_textLines (depth : Nat) (texts : List String) :
    texts.length ≤ (textLines depth texts).length := by
  induction texts with
  | nil => exact Nat.zero_le _
  | cons text texts ih =>
    have split : textLines depth (text :: texts) =
        (pad depth ++ TextForm.writtenChars text.toList ++ [',', '\n']) ++ textLines depth texts := rfl
    rw [split, List.length_append, List.length_append]
    simp only [List.length_cons]
    omega

/-- A list of texts is read as a value. -/
private theorem readValue_texts {bound room : Nat} {texts : List String}
    (enough : texts.length + 1 < bound) (space : arrayRoom ≤ room) (rest : List Char) :
    readValue bound room (listChars texts ++ rest) = .ok (.list (texts.map .text), rest) := by
  obtain ⟨bound, rfl⟩ : ∃ smaller, bound = smaller + 1 := ⟨bound - 1, by omega⟩
  have fewer : texts.length < bound := by omega
  have roomy : ¬ room < arrayRoom := by omega
  cases texts with
  | nil =>
    obtain ⟨bound, rfl⟩ := Nat.exists_eq_add_one_of_ne_zero (Nat.ne_of_gt fewer)
    have closed : skipLayout (']' :: rest) = .ok (']' :: rest) := skipLayout_eq rfl (by decide)
    simp [readValue, readItems, listChars, roomy, closed, bind, Except.bind]
  | cons text texts =>
    obtain ⟨start, skipped, read⟩ := readItems_texts fewer (room - arrayRoom) rest
    simp only [List.cons_append] at skipped
    simp [readValue, listChars, roomy, skipped, read, bind, Except.bind]

/-- A text or a list of texts is read as it was written. -/
theorem readValue_plain {bound room : Nat} {value : Value} (plain : IsPlain value)
    {chars : List Char} (written : valueChars? 0 value = some chars) (fits : chars.length < bound)
    (space : arrayRoom ≤ room) (rest : List Char) (apart : rest.head? ≠ some '"') :
    readValue (2 * bound) room (chars ++ rest) = .ok (value, rest) := by
  cases plain with
  | text text =>
    cases written
    exact readValue_text (by omega) room text rest apart
  | list texts =>
    rw [valueChars?_texts] at written
    cases written
    refine readValue_texts ?_ space rest
    have lines := length_le_textLines 1 texts
    cases texts with
    | nil =>
      simp only [listChars, List.length_cons, List.length_nil] at fits ⊢
      omega
    | cons text texts =>
      simp only [listChars, List.length_cons, List.length_append, List.length_nil] at fits lines ⊢
      omega

private theorem return_not_mem_textLines (depth : Nat) (texts : List String) :
    '\r' ∉ textLines depth texts := by
  simp [textLines, pad, TextForm.return_not_mem_writtenChars]

namespace IsPlain

variable {value : Value} (plain : IsPlain value)
include plain

/-- What is written for a text or a list of texts begins with a quote or a bracket. -/
theorem written : ∃ first more, valueChars? 0 value = some (first :: more) ∧
    (first = '"' ∨ first = '[') ∧ '\r' ∉ first :: more := by
  cases plain with
  | text text =>
    exact ⟨_, _, rfl, .inl rfl, TextForm.return_not_mem_writtenChars text.toList⟩
  | list texts =>
    rw [valueChars?_texts]
    cases texts with
    | nil => exact ⟨_, _, rfl, .inr rfl, by decide⟩
    | cons text texts =>
      exact ⟨_, _, rfl, .inr rfl, by simp [return_not_mem_textLines]⟩

/-- It comes under no header. -/
theorem isHeaded? : Printer.isHeaded? value = some false := by
  cases plain with
  | text text => rfl
  | list texts => cases texts <;> rfl

end IsPlain

end ContainerLogs.Toml
