import ContainerLogs.Settings.Value
import ContainerLogs.Toml.Text

/-!
Numbers and moments in TOML: integers to base ten, sixteen, eight and two, numbers with a fraction
or an exponent, infinities, dates and times of day. Digits may be parted by single underscores.
-/
namespace ContainerLogs.Toml

open Settings (Value)

namespace Number

def isDecimal (c : Char) : Bool := '0' ≤ c ∧ c ≤ '9'
def isOctal (c : Char) : Bool := '0' ≤ c ∧ c ≤ '7'
def isBinary (c : Char) : Bool := c = '0' ∨ c = '1'
def isHex (c : Char) : Bool := (TextForm.hexValue? c).isSome

/-- The digits at the front, without the underscores between two of them. -/
def digits (isDigit : Char → Bool) : List Char → List Char × List Char
  | [] => ([], [])
  | '_' :: c :: rest =>
      if isDigit c then
        let (more, rest) := digits isDigit rest
        (c :: more, rest)
      else ([], '_' :: c :: rest)
  | c :: rest =>
      if isDigit c then
        let (more, rest) := digits isDigit rest
        (c :: more, rest)
      else ([], c :: rest)

/-- A run of digits that starts with one. -/
def run? (isDigit : Char → Bool) : List Char → Option (List Char × List Char)
  | [] => none
  | c :: rest =>
      if isDigit c then
        let (more, rest) := digits isDigit rest
        some (c :: more, rest)
      else none

def valueIn (base : Nat) (digits : List Char) : Nat :=
  digits.foldl (fun n c => base * n + (TextForm.hexValue? c).getD 0) 0

/-- An integer whose base is told by a letter after a zero. -/
def based? : List Char → Option (Value × List Char)
  | '0' :: letter :: rest => do
      let (base, isDigit) ←
        if letter = 'x' then some (16, isHex)
        else if letter = 'o' then some (8, isOctal)
        else if letter = 'b' then some (2, isBinary)
        else none
      let (digits, rest) ← run? isDigit rest
      some (.integer (valueIn base digits), rest)
  | _ => none

def sign : List Char → Bool × List Char
  | '-' :: rest => (true, rest)
  | '+' :: rest => (false, rest)
  | chars => (false, chars)

/-- The whole part of a number: a single zero, or digits that do not start with one. -/
def whole? : List Char → Option (List Char × List Char)
  | '0' :: rest => some (['0'], rest)
  | chars => run? isDecimal chars

def fraction : List Char → List Char × List Char
  | '.' :: rest => (run? isDecimal rest).getD ([], '.' :: rest)
  | chars => ([], chars)

def exponent? : List Char → Option (Int × List Char)
  | c :: rest =>
      if c = 'e' ∨ c = 'E' then do
        let (negative, rest) := sign rest
        let (digits, rest) ← run? isDecimal rest
        let n : Int := valueIn 10 digits
        some (if negative then -n else n, rest)
      else none
  | [] => none

def signed (negative : Bool) (n : Nat) : Int := if negative then -(n : Int) else n

def decimal? (chars : List Char) : Option (Except Fault (Taken Value)) := do
  let (negative, unsigned) := sign chars
  let (whole, rest) ← whole? unsigned
  let (fraction, rest) := fraction rest
  match exponent? rest with
  | some (exponent, rest) =>
      some (.ok (.real (.ofDecimal negative (valueIn 10 (whole ++ fraction))
        (exponent - fraction.length)), rest))
  | none =>
      if ¬ fraction.isEmpty then
        some (.ok (.real (.ofDecimal negative (valueIn 10 (whole ++ fraction))
          (-(fraction.length : Int))), rest))
      else if Text.maxDigits < whole.length then some (.error .oversizedNumber)
      else some (.ok (.integer (signed negative (valueIn 10 whole)), rest))

/-- Infinities and what is no number. -/
def special? (chars : List Char) : Option (Value × List Char) :=
  let (negative, unsigned) := sign chars
  match unsigned with
  | 'i' :: 'n' :: 'f' :: rest => some (.real (.infinite negative), rest)
  | 'n' :: 'a' :: 'n' :: rest => some (.real .notNumber, rest)
  | _ => none

end Number

namespace Moment

/-- A number of the given width within bounds. -/
def field? (width low high : Nat) (chars : List Char) : Option (Nat × List Char) :=
  let digits := chars.take width
  if digits.length = width ∧ digits.all Number.isDecimal then
    let n := Number.valueIn 10 digits
    if low ≤ n ∧ n ≤ high then some (n, chars.drop width) else none
  else none

def expect? (c : Char) : List Char → Option (List Char)
  | d :: rest => if d = c then some rest else none
  | [] => none

/-- The rest after the fraction of a second, if there is one. -/
def afterFraction : List Char → List Char
  | '.' :: c :: rest =>
      if Number.isDecimal c then rest.dropWhile Number.isDecimal else '.' :: c :: rest
  | chars => chars

/-- The rest after a time of day. -/
def time? (chars : List Char) : Option (List Char) := do
  let (_, rest) ← field? 2 0 23 chars
  let (_, rest) ← field? 2 0 59 (← expect? ':' rest)
  let (_, rest) ← field? 2 0 59 (← expect? ':' rest)
  some (afterFraction rest)

def clockOffset? (chars : List Char) : Option (List Char) := do
  let (_, rest) ← field? 2 0 23 chars
  let (_, rest) ← field? 2 0 59 (← expect? ':' rest)
  some rest

/-- The rest after an offset from universal time, if there is one. -/
def afterOffset : List Char → List Char
  | c :: rest =>
      if c = 'Z' ∨ c = 'z' then rest
      else if c = '+' ∨ c = '-' then (clockOffset? rest).getD (c :: rest)
      else c :: rest
  | [] => []

/-- The rest after the time that may follow a date. -/
def afterTime : List Char → List Char
  | c :: rest =>
      if c = 'T' ∨ c = 't' ∨ c = ' ' then
        match time? rest with
        | some rest => afterOffset rest
        | none => c :: rest
      else c :: rest
  | [] => []

def isLeap (year : Nat) : Bool := year % 4 = 0 ∧ (year % 100 ≠ 0 ∨ year % 400 = 0)

def daysIn (year month : Nat) : Nat :=
  if month = 2 then (if isLeap year then 29 else 28)
  else if month = 4 ∨ month = 6 ∨ month = 9 ∨ month = 11 then 30
  else 31

structure Date where
  year : Nat
  month : Nat
  day : Nat

def Date.isValid (date : Date) : Bool := 1 ≤ date.year ∧ date.day ≤ daysIn date.year date.month

def date? (chars : List Char) : Option (Date × List Char) := do
  let (year, rest) ← field? 4 0 9999 chars
  let (month, rest) ← field? 2 1 12 (← expect? '-' rest)
  let (day, rest) ← field? 2 1 31 (← expect? '-' rest)
  some (⟨year, month, day⟩, rest)

/-- The characters that moments are written with. -/
def isMomentChar (c : Char) : Bool :=
  Number.isDecimal c ∨ c ∈ ['-', ':', '.', '+', ' ', 'T', 't', 'Z', 'z']

/-- The moment that ends where a rest starts of the characters that may belong to it. -/
def upTo (chars front rest : List Char) : Taken Value :=
  let written := front.take (front.length - rest.length)
  (.moment (String.ofList written), chars.drop written.length)

/-- A date, a date with a time or a time of day. A day that its month does not have is malformed. -/
def read? (chars : List Char) : Option (Except Fault (Taken Value)) :=
  let front := chars.takeWhile isMomentChar
  match date? front with
  | some (date, rest) =>
      if date.isValid then some (.ok (upTo chars front (afterTime rest)))
      else some (.error .malformed)
  | none => (time? front).map fun rest => .ok (upTo chars front rest)

end Moment

/-- A number or a moment, if one starts here. -/
def readNumber? (chars : List Char) : Option (Except Fault (Taken Value)) :=
  (Moment.read? chars).orElse fun _ =>
    ((Number.based? chars).map Except.ok).orElse fun _ =>
      (Number.decimal? chars).orElse fun _ => (Number.special? chars).map Except.ok

end ContainerLogs.Toml
