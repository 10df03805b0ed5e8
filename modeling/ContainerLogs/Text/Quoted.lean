import ContainerLogs.Text.Printable

/-!
Quoted text, as error messages show names and values: between single quotes, or between double
quotes when the text holds a single quote and no double one. The backslash and the quote in use are
escaped, and so is every character that does not print.
-/
namespace ContainerLogs.Text

def hexDigit (n : Nat) : Char := if n < 10 then Char.ofNat (48 + n) else Char.ofNat (87 + n)

/-- The last `width` hexadecimal digits of a number. -/
def hexDigits : (width : Nat) → Nat → List Char
  | 0, _ => []
  | width + 1, n => hexDigits width (n / 16) ++ [hexDigit (n % 16)]

/-- The escape of a character by its number. -/
def numberEscape (c : Char) : List Char :=
  if c.toNat < 0x100 then '\\' :: 'x' :: hexDigits 2 c.toNat
  else if c.toNat < 0x10000 then '\\' :: 'u' :: hexDigits 4 c.toNat
  else '\\' :: 'U' :: hexDigits 8 c.toNat

def escapedChar (quote c : Char) : List Char :=
  if c = quote ∨ c = '\\' then ['\\', c]
  else if c = '\n' then ['\\', 'n']
  else if c = '\r' then ['\\', 'r']
  else if c = '\t' then ['\\', 't']
  else if isPrintable c then [c]
  else numberEscape c

def quoteFor (text : List Char) : Char :=
  if text.contains '\'' ∧ ¬ text.contains '"' then '"' else '\''

def quotedChars (text : List Char) : List Char :=
  let quote := quoteFor text
  quote :: text.flatMap (escapedChar quote) ++ [quote]

/-- A text with everything beyond ASCII escaped. -/
def asciiChars (text : List Char) : List Char :=
  text.flatMap fun c => if c.toNat < 0x80 then [c] else numberEscape c

def quoted (text : String) : String := String.ofList (quotedChars text.toList)

end ContainerLogs.Text
