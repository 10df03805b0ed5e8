import ContainerLogs.Toml.Node
import ContainerLogs.Toml.Number

/-!
Keys and values in TOML. A key has one or more parts, each bare or a text on one line. A value is a
text, a truth value, a number, a moment, an array, which may run over several lines, or an inline
table, which may not and is complete at its closing brace.
-/
namespace ContainerLogs.Toml

open Settings (Value)

def isBareChar (c : Char) : Bool := c.isAlphanum ∨ c = '-' ∨ c = '_'

def skipSpaces (chars : List Char) : List Char := chars.dropWhile TextForm.isSpace

namespace Key

def bare (chars : List Char) : List Char × List Char := chars.span isBareChar

def readPart (chars : List Char) : Except Fault (Taken String) :=
  match chars with
  | '"' :: rest => (TextForm.readBasic rest).map fun (part, rest) => (String.ofList part, rest)
  | '\'' :: rest => (TextForm.readLiteral rest).map fun (part, rest) => (String.ofList part, rest)
  | chars =>
      match bare chars with
      | ([], _) => .error .malformed
      | (part, rest) => .ok (String.ofList part, rest)

/-- A key of at most `bound` parts, with the blanks that follow it. -/
def read : (bound : Nat) → List Char → Except Fault (Taken (List String))
  | 0, _ => .error .malformed
  | bound + 1, chars => do
      let (part, rest) ← readPart chars
      match skipSpaces rest with
      | '.' :: rest =>
          let (parts, rest) ← read bound (skipSpaces rest)
          .ok (part :: parts, rest)
      | rest => .ok ([part], rest)

end Key

/-- The rest after a comment whose mark was just read; the end of the line is not part of it. -/
def skipComment (chars : List Char) : Except Fault (List Char) :=
  if (chars.takeWhile (· ≠ '\n')).any TextForm.isForbidden then .error .malformed
  else .ok (chars.dropWhile (· ≠ '\n'))

theorem length_of_skipComment {chars rest : List Char}
    (skipped : skipComment chars = .ok rest) : rest.length ≤ chars.length := by
  unfold skipComment at skipped
  split at skipped
  · cases skipped
  · cases skipped
    exact TextForm.length_dropWhile_le _ _

/-- The rest after blanks, ends of lines and comments. -/
def skipLayout (chars : List Char) : Except Fault (List Char) :=
  match _blanks : chars.dropWhile TextForm.isSpaceOrNewline with
  | '#' :: rest =>
      match _comment : skipComment rest with
      | .error fault => .error fault
      | .ok rest => skipLayout rest
  | rest => .ok rest
termination_by chars.length
decreasing_by
  have blanks := TextForm.length_dropWhile_le TextForm.isSpaceOrNewline chars
  have comment := length_of_skipComment _comment
  simp only [_blanks, List.length_cons] at blanks
  omega

/-- An inline table under construction, with the keys whose values are complete. -/
structure Nest where
  entries : Entries := []
  complete : List (List String) := []

/-- Whether something at or above a key is complete. -/
def isSealed (complete : List (List String)) (key : List String) : Bool :=
  complete.any fun held => held.isPrefixOf key

def isContainer : Value → Bool
  | .table _ | .list _ => true
  | _ => false

/-- Takes one entry of an inline table in. -/
def Nest.add (nest : Nest) (key : List String) (value : Value) : Except Fault Nest := do
  if isSealed nest.complete key then .error .malformed
  else
    let add := Entries.add (key.getLast?.getD "") (.complete value)
    let entries ← Entries.changeAt false add key.dropLast nest.entries
    .ok ⟨entries, if isContainer value then key :: nest.complete else nest.complete⟩

/-- A value that holds no others, if one starts here. -/
def readScalar? (chars : List Char) : Option (Except Fault (Taken Value)) :=
  match TextForm.read? chars with
  | some scan => some (scan.map fun (text, rest) => (.text (String.ofList text), rest))
  | none =>
      match chars with
      | 't' :: 'r' :: 'u' :: 'e' :: rest => some (.ok (.truth true, rest))
      | 'f' :: 'a' :: 'l' :: 's' :: 'e' :: rest => some (.ok (.truth false, rest))
      | chars => readNumber? chars

/-- The room that nested values have in all, and what an array and an inline table take of it. -/
def nestingRoom : Nat := 980
def arrayRoom : Nat := 2
def inlineTableRoom : Nat := 3

mutual

/-- A value that nests at most `bound` steps deep and long. -/
def readValue : (bound room : Nat) → List Char → Except Fault (Taken Value)
  | 0, _, _ => .error .malformed
  | bound + 1, room, chars =>
      match chars with
      | '[' :: rest => do
          if room < arrayRoom then .error .nestedTooDeep
          else
            let (items, rest) ← readItems bound (room - arrayRoom) (← skipLayout rest)
            .ok (.list items, rest)
      | '\x7b' :: rest => do
          if room < inlineTableRoom then .error .nestedTooDeep
          else
            let (nest, rest) ← readEntries bound (room - inlineTableRoom) true {} (skipSpaces rest)
            .ok (.table nest.entries.table, rest)
      | chars => (readScalar? chars).getD (.error .malformed)

/-- The items of an array up to its closing bracket; a comma may follow the last one. -/
def readItems : (bound room : Nat) → List Char → Except Fault (Taken (List Value))
  | 0, _, _ => .error .malformed
  | bound + 1, room, chars =>
      match chars with
      | ']' :: rest => .ok ([], rest)
      | chars => do
          let (item, rest) ← readValue bound room chars
          match ← skipLayout rest with
          | ']' :: rest => .ok ([item], rest)
          | ',' :: rest =>
              let (items, rest) ← readItems bound room (← skipLayout rest)
              .ok (item :: items, rest)
          | _ => .error .malformed

/-- The entries of an inline table up to its closing brace. -/
def readEntries : (bound room : Nat) → (first : Bool) → Nest → List Char →
    Except Fault (Taken Nest)
  | 0, _, _, _, _ => .error .malformed
  | bound + 1, room, first, nest, chars =>
      match first, chars with
      | true, '\x7d' :: rest => .ok (nest, rest)
      | _, chars => do
          let (key, rest) ← Key.read bound chars
          match rest with
          | '=' :: rest =>
              let (value, rest) ← readValue bound room (skipSpaces rest)
              let nest ← nest.add key value
              match skipSpaces rest with
              | '\x7d' :: rest => .ok (nest, rest)
              | ',' :: rest => readEntries bound room false nest (skipSpaces rest)
              | _ => .error .malformed
          | _ => .error .malformed

end

end ContainerLogs.Toml
