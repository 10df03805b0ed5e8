import ContainerLogs.Text.Numeral

/-!
Numbers with a fraction, as 64 bits of binary floating point hold them. A decimal is read as the
nearest such number, a tie going to the even neighbour, and written with the fewest digits that read
back.
-/
namespace ContainerLogs

inductive Floating where
  /-- A magnitude in units of the smallest number above zero, two to the power of -1074. -/
  | finite (negative : Bool) (units : Nat)
  | infinite (negative : Bool)
  | notNumber
  deriving DecidableEq, Inhabited, Repr

namespace Floating

/-- The units in one. -/
def one : Nat := Nat.pow 2 1074

/-- The first magnitude that is too large, in units. -/
def limit : Nat := Nat.pow 2 1024 * one

/-- The quotient rounded to a whole number, a tie going to the even one. -/
def roundDiv (numerator denominator : Nat) : Nat :=
  let quotient := numerator / denominator
  let doubled := 2 * (numerator % denominator)
  if doubled > denominator ∨ (doubled = denominator ∧ quotient % 2 = 1) then quotient + 1
  else quotient

/-- The distance between neighbours of 53 binary digits at a magnitude. -/
def gridAt (units : Nat) : Nat := Nat.pow 2 (units.log2 - 52)

/-- The nearest magnitude of 53 binary digits to a quotient of units. -/
def nearest (numerator denominator : Nat) : Nat :=
  let grid := gridAt (numerator / denominator)
  roundDiv numerator (denominator * grid) * grid

/-- The quotient of units that `mantissa · 10 ^ exponent` is. -/
def quotient (mantissa : Nat) (exponent : Int) : Nat × Nat :=
  (mantissa * Nat.pow 10 exponent.toNat * one, Nat.pow 10 (-exponent).toNat)

/-- The magnitude nearest to `mantissa · 10 ^ exponent`. -/
def magnitude (mantissa : Nat) (exponent : Int) : Nat :=
  let (numerator, denominator) := quotient mantissa exponent
  nearest numerator denominator

/-- The number nearest to `mantissa · 10 ^ exponent`. Below 10 ^ -400 it is zero and above 10 ^ 400
infinite, whatever the digits are. -/
def ofDecimal (negative : Bool) (mantissa : Nat) (exponent : Int) : Floating :=
  let order : Int := (Nat.toDigits 10 mantissa).length + exponent
  if mantissa = 0 ∨ order < -400 then finite negative 0
  else if 400 < order then infinite negative
  else
    let units := magnitude mantissa exponent
    if limit ≤ units then infinite negative else finite negative units

/-- The power of ten of the first digit of a magnitude. -/
def order (units : Nat) : Int := (Nat.toDigits 10 (units * Nat.pow 10 400 / one)).length - 401

/-- Of the two neighbours with so many digits, the one that reads back, or the nearer one if both
do. -/
def readingBack? (units count : Nat) : Option (Nat × Int) :=
  let exponent := order units - (count - 1)
  let numerator := units * Nat.pow 10 (-exponent).toNat
  let denominator := one * Nat.pow 10 exponent.toNat
  let below := numerator / denominator
  let preferred := roundDiv numerator denominator
  let other := if preferred = below then below + 1 else below
  ([preferred, other].find? fun mantissa => magnitude mantissa exponent = units).map (·, exponent)

/-- The fewest digits that read back as a magnitude, with their power of ten. Seventeen are always
enough. -/
def shortest (units : Nat) : Nat × Int :=
  (((List.range 17).map (· + 1)).findSome? (readingBack? units)).getD (0, 0)

/-- Removes the zeros at the end. -/
def withoutZeros (digits : List Char) : List Char := (digits.reverse.dropWhile (· = '0')).reverse

/-- A decimal in positional form between 0.0001 and ten to the sixteenth, else with an exponent. -/
def decimalChars (mantissa : Nat) (exponent : Int) : List Char :=
  let digits := Nat.toDigits 10 mantissa
  let point : Int := digits.length + exponent
  let significant := withoutZeros digits
  if significant.isEmpty then "0.0".toList
  else if -4 < point ∧ point ≤ 0 then
    "0.".toList ++ List.replicate point.natAbs '0' ++ significant
  else if 0 < point ∧ point ≤ 16 then
    let whole := significant.take point.toNat
    let fraction := significant.drop point.toNat
    Text.padRight point.toNat '0' whole ++ '.' :: (if fraction.isEmpty then ['0'] else fraction)
  else
    let order := point - 1
    let fraction := significant.drop 1
    significant.take 1 ++ (if fraction.isEmpty then [] else '.' :: fraction) ++
      'e' :: (if order < 0 then '-' else '+') :: Text.paddedChars 2 order.natAbs

def magnitudeChars (units : Nat) : List Char :=
  let (mantissa, exponent) := shortest units
  decimalChars mantissa exponent

def signed (negative : Bool) (chars : List Char) : List Char :=
  if negative then '-' :: chars else chars

def chars : Floating → List Char
  | finite negative units => signed negative (magnitudeChars units)
  | infinite negative => signed negative "inf".toList
  | notNumber => "nan".toList

/-- The whole part of a finite number. -/
def whole? : Floating → Option Int
  | finite negative units =>
      let whole : Int := units / one
      some (if negative then -whole else whole)
  | _ => none

end Floating

end ContainerLogs
