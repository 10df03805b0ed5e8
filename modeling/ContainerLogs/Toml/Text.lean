import ContainerLogs.Text.Quoted

/-!
Texts in TOML. They are written as basic texts on one line: quotes, backslashes and control
characters but the tab are escaped. They are read in four forms, basic and literal, on one line or
on several.
-/
namespace ContainerLogs.Toml

inductive Fault where
  | malformed
  /-- A decimal integer with more digits than a number is read from. -/
  | oversizedNumber
  /-- Values within values, more of them than there is room for. -/
  | nestedTooDeep
  deriving DecidableEq, Repr

/-- What is read from the front of a text, with the rest of the text. -/
abbrev Taken (α : Type) := α × List Char

namespace TextForm

def isControl (c : Char) : Bool := c.toNat < 32 ∨ c.toNat = 127

/-- Control characters that may not stand as they are. -/
def isForbidden (c : Char) : Bool := isControl c ∧ c ≠ '\t'

def isForbiddenInLines (c : Char) : Bool := isForbidden c ∧ c ≠ '\n'

def escapedChar (c : Char) : List Char :=
  if c = '"' ∨ c = '\\' then ['\\', c]
  else if c = '\n' then ['\\', 'n']
  else if c = '\r' then ['\\', 'r']
  else if c.toNat = 8 then ['\\', 'b']
  else if c.toNat = 12 then ['\\', 'f']
  else if isForbidden c then '\\' :: 'u' :: Text.hexDigits 4 c.toNat
  else [c]

def writtenChars (text : List Char) : List Char := '"' :: text.flatMap escapedChar ++ ['"']

def hexValue? (c : Char) : Option Nat :=
  if '0' ≤ c ∧ c ≤ '9' then some (c.toNat - 48)
  else if 'a' ≤ c ∧ c ≤ 'f' then some (c.toNat - 87)
  else if 'A' ≤ c ∧ c ≤ 'F' then some (c.toNat - 55)
  else none

/-- The character with a number in hexadecimal digits; surrogates are none. -/
def scalar? (digits : List Char) : Option Char := do
  let values ← digits.mapM hexValue?
  let n := values.foldl (fun n digit => 16 * n + digit) 0
  if n.isValidChar then some (Char.ofNat n) else none

def simpleEscape? (c : Char) : Option Char :=
  if c = 'b' then some (Char.ofNat 8)
  else if c = 't' then some '\t'
  else if c = 'n' then some '\n'
  else if c = 'f' then some (Char.ofNat 12)
  else if c = 'r' then some '\r'
  else if c = '"' ∨ c = '\\' then some c
  else none

/-- The number of digits after an escape letter. -/
def escapeWidth (c : Char) : Nat := if c = 'u' then 4 else if c = 'U' then 8 else 0

/-- The character that an escape stands for; the text starts after the backslash. -/
def escape? : List Char → Option (Char × List Char)
  | [] => none
  | c :: rest =>
      if escapeWidth c = 0 then (simpleEscape? c).map (·, rest)
      else if rest.length < escapeWidth c then none
      else (scalar? (rest.take (escapeWidth c))).map (·, rest.drop (escapeWidth c))

theorem length_of_escape? {chars rest : List Char} {c : Char}
    (escaped : escape? chars = some (c, rest)) : rest.length < chars.length := by
  cases chars with
  | nil => cases escaped
  | cons first others =>
      simp only [escape?] at escaped
      split at escaped
      · obtain ⟨_, _, same⟩ := Option.map_eq_some_iff.1 escaped
        cases same
        simp
      · split at escaped
        · cases escaped
        · obtain ⟨_, _, same⟩ := Option.map_eq_some_iff.1 escaped
          cases same
          simp only [List.length_drop, List.length_cons]
          omega

/-- A basic text on one line, after its opening quote. -/
def readBasic : List Char → Except Fault (Taken (List Char))
  | [] => .error .malformed
  | c :: rest =>
      if c = '"' then .ok ([], rest)
      else if c = '\\' then
        match _escaped : escape? rest with
        | none => .error .malformed
        | some (d, rest) => (readBasic rest).map fun (text, rest) => (d :: text, rest)
      else if isForbidden c then .error .malformed
      else (readBasic rest).map fun (text, rest) => (c :: text, rest)
termination_by chars => chars.length
decreasing_by
  · have := length_of_escape? _escaped
    simp only [List.length_cons]
    omega
  · simp

/-- A literal text on one line, after its opening quote. -/
def readLiteral : List Char → Except Fault (Taken (List Char))
  | [] => .error .malformed
  | c :: rest =>
      if c = '\'' then .ok ([], rest)
      else if isForbidden c then .error .malformed
      else (readLiteral rest).map fun (text, rest) => (c :: text, rest)

def isSpace (c : Char) : Bool := c = ' ' ∨ c = '\t'

def isSpaceOrNewline (c : Char) : Bool := isSpace c ∨ c = '\n'

/-- At most two more quotes, which belong to a text on several lines that they end. -/
def closing (quote : Char) : List Char → List Char × List Char
  | [] => ([], [])
  | c :: rest =>
      if c ≠ quote then ([], c :: rest)
      else match rest with
        | d :: rest => if d = quote then ([quote, quote], rest) else ([quote], d :: rest)
        | [] => ([quote], [])

/-- What follows a backslash that ends its line: the text goes on at the next character that is
neither space nor line end. -/
def continuation (chars : List Char) : Except Fault (List Char) :=
  match chars.dropWhile isSpace with
  | [] => .ok []
  | c :: rest => if c = '\n' then .ok (rest.dropWhile isSpaceOrNewline) else .error .malformed

def startsContinuation (chars : List Char) : Bool :=
  match chars with
  | [] => false
  | c :: _ => isSpaceOrNewline c

theorem length_dropWhile_le (test : Char → Bool) (chars : List Char) :
    (chars.dropWhile test).length ≤ chars.length :=
  (List.dropWhile_sublist test).length_le

theorem length_of_continuation {chars rest : List Char}
    (continued : continuation chars = .ok rest) : rest.length ≤ chars.length := by
  have spaces := length_dropWhile_le isSpace chars
  unfold continuation at continued
  split at continued
  · cases continued
    simp
  · rename_i c others dropped
    split at continued
    · cases continued
      have lines := length_dropWhile_le isSpaceOrNewline others
      simp only [dropped, List.length_cons] at spaces
      omega
    · cases continued

/-- A basic text on several lines, after its opening quotes. -/
def readBasicLines : List Char → Except Fault (Taken (List Char))
  | [] => .error .malformed
  | '"' :: '"' :: '"' :: rest => .ok (closing '"' rest)
  | c :: rest =>
      if c = '\\' then
        if startsContinuation rest then
          match _continued : continuation rest with
          | .error fault => .error fault
          | .ok rest => readBasicLines rest
        else match _escaped : escape? rest with
          | none => .error .malformed
          | some (d, rest) => (readBasicLines rest).map fun (text, rest) => (d :: text, rest)
      else if isForbiddenInLines c then .error .malformed
      else (readBasicLines rest).map fun (text, rest) => (c :: text, rest)
termination_by chars => chars.length
decreasing_by
  · have := length_of_continuation _continued
    simp only [List.length_cons]
    omega
  · have := length_of_escape? _escaped
    simp only [List.length_cons]
    omega
  · simp

/-- A literal text on several lines, after its opening quotes. -/
def readLiteralLines : List Char → Except Fault (Taken (List Char))
  | [] => .error .malformed
  | '\'' :: '\'' :: '\'' :: rest => .ok (closing '\'' rest)
  | c :: rest =>
      if isForbiddenInLines c then .error .malformed
      else (readLiteralLines rest).map fun (text, rest) => (c :: text, rest)

/-- A newline right after the opening quotes is no part of the text. -/
def withoutNewline : List Char → List Char
  | '\n' :: rest => rest
  | chars => chars

/-- A text in any form, if one starts here. -/
def read? : List Char → Option (Except Fault (Taken (List Char)))
  | '"' :: '"' :: '"' :: rest => some (readBasicLines (withoutNewline rest))
  | '"' :: rest => some (readBasic rest)
  | '\'' :: '\'' :: '\'' :: rest => some (readLiteralLines (withoutNewline rest))
  | '\'' :: rest => some (readLiteral rest)
  | _ => none

end TextForm

end ContainerLogs.Toml
