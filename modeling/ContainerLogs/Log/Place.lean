import ContainerLogs.Floating.Form
import ContainerLogs.Settings.Value

/-!
What a place in a message template shows of a value: as text, as a single character, or as a number
in one of several forms, filled up to a width. A value that does not suit the place shows nothing.
-/
namespace ContainerLogs

/-- The forms a value can be shown in. -/
inductive LogForm where
  | text
  /-- Texts between quotes. -/
  | quoted
  /-- Texts between quotes, everything beyond ASCII escaped. -/
  | ascii
  | character
  | decimal
  | octal
  | hexadecimal
  | fixed
  | scientific
  | general
  deriving DecidableEq, Repr

/-- The form that a letter asks for, and whether it is written in capitals. -/
def LogForm.ofLetter? : Char → Option (LogForm × Bool)
  | 's' => some (text, false)
  | 'r' => some (quoted, false)
  | 'a' => some (ascii, false)
  | 'c' => some (character, false)
  | 'd' | 'i' | 'u' => some (decimal, false)
  | 'o' => some (octal, false)
  | 'x' => some (hexadecimal, false)
  | 'X' => some (hexadecimal, true)
  | 'f' => some (fixed, false)
  | 'F' => some (fixed, true)
  | 'e' => some (scientific, false)
  | 'E' => some (scientific, true)
  | 'g' => some (general, false)
  | 'G' => some (general, true)
  | _ => none

structure LogPlace where
  form : LogForm
  capitals : Bool := false
  flags : List Char := []
  width : Nat := 0
  precision : Option Nat := none

namespace LogPlace

/-- The most digits a number can be asked for. -/
def maxDigits : Nat := Nat.pow 2 31 - 4

/-- Whether the text begins at the left end of its width. -/
def startsLeft (place : LogPlace) : Bool := '-' ∈ place.flags

/-- Whether a number shows its form: the base by a mark, a fraction by its point. -/
def isExplicit (place : LogPlace) : Bool := '#' ∈ place.flags

/-- Blanks fill the width, on the left unless a flag says otherwise. -/
def padded (place : LogPlace) (text : List Char) : List Char :=
  if place.startsLeft then Text.padRight place.width ' ' text
  else Text.padLeft place.width ' ' text

/-- The sign of a number; a flag may ask for one before numbers that are not negative. -/
def signChars (place : LogPlace) (negative : Bool) : List Char :=
  if negative then ['-']
  else if '+' ∈ place.flags then ['+']
  else if ' ' ∈ place.flags then [' ']
  else []

/-- A number of a sign, a mark of its base and digits; a flag fills the width with zeros before the
digits. -/
def numberChars (place : LogPlace) (negative : Bool) (mark digits : List Char) : List Char :=
  let front := place.signChars negative ++ mark
  let zeros :=
    if '0' ∈ place.flags ∧ ¬ place.startsLeft then place.width - front.length else 0
  place.padded (front ++ Text.padLeft zeros '0' digits)

/-- A text, cut at the precision. -/
def textChars (place : LogPlace) (text : List Char) : List Char :=
  place.padded (text.take (place.precision.getD text.length))

def inCapitals (place : LogPlace) (digits : List Char) : List Char :=
  if place.capitals then digits.map Char.toUpper else digits

/-- A whole number, with as many digits as the precision asks for. -/
def wholeChars? (place : LogPlace) (base : Nat) (mark : List Char) (value : Int) :
    Option (List Char) :=
  let count := place.precision.getD 1
  if maxDigits < count then none
  else
    some (place.numberChars (value < 0)
      (if place.isExplicit then place.inCapitals mark else [])
      (place.inCapitals (Text.padLeft count '0' (Nat.toDigits base value.natAbs))))

/-- The places after the point, unless the precision says otherwise. -/
def usualPlaces : Nat := 6

/-- The digits of a magnitude in the form of the place. -/
def magnitudeChars (place : LogPlace) (units : Nat) : List Char :=
  let precision := place.precision.getD usualPlaces
  match place.form with
  | .scientific => Floating.scientificChars place.isExplicit precision units
  | .general => Floating.generalChars place.isExplicit (max 1 precision) units
  | _ => Floating.fixedChars place.isExplicit precision units

def floatingChars? (place : LogPlace) (value : Floating) : Option (List Char) :=
  if maxDigits < place.precision.getD usualPlaces then none
  else
    some <| match value with
      | .finite negative units =>
          place.numberChars negative [] (place.inCapitals (place.magnitudeChars units))
      | .infinite negative => place.numberChars negative [] (place.inCapitals "inf".toList)
      | .notNumber => place.numberChars false [] (place.inCapitals "nan".toList)

/-- The character that a value is or is the number of. -/
def character? : Settings.Value → Option Char
  | .text text =>
      match text.toList with
      | [c] => some c
      | _ => none
  | value => do
      let index ← value.index?
      if 0 ≤ index ∧ index.toNat.isValidChar then some (Char.ofNat index.toNat) else none

/-- What the place shows of a value. -/
def shown? (place : LogPlace) (value : Settings.Value) : Option (List Char) :=
  match place.form with
  | .text => some (place.textChars value.plain.toList)
  | .quoted => some (place.textChars value.chars)
  | .ascii => some (place.textChars (Text.asciiChars value.chars))
  | .character => (character? value).map fun c => place.padded [c]
  | .decimal => do place.wholeChars? 10 [] (← value.whole?)
  | .octal => do place.wholeChars? 8 ['0', 'o'] (← value.index?)
  | .hexadecimal => do place.wholeChars? 16 ['0', 'x'] (← value.index?)
  | .fixed | .scientific | .general => do place.floatingChars? (← value.floating?)

end LogPlace

end ContainerLogs
