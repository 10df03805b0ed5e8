import ContainerLogs.Floating

/-!
Magnitudes written with a given number of digits: with a fixed number of places, with an exponent,
or in whichever of the two forms suits the magnitude. Ties go to the even digit.
-/
namespace ContainerLogs.Floating

/-- Digits with a point before the last `places` of them; `pointed` keeps the point where nothing
follows it. -/
def pointBefore (pointed : Bool) (places : Nat) (digits : List Char) : List Char :=
  let fraction := digits.drop (digits.length - places)
  digits.take (digits.length - places) ++
    if fraction.isEmpty ∧ ¬ pointed then [] else '.' :: fraction

def fixedChars (pointed : Bool) (places units : Nat) : List Char :=
  let digits := Nat.toDigits 10 (roundDiv (units * Nat.pow 10 places) one)
  pointBefore pointed places (Text.padLeft (places + 1) '0' digits)

/-- A magnitude as a number of `places + 1` digits, and the power of ten of the first of them. -/
def leading (places units : Nat) : Nat × Int :=
  if units = 0 then (0, 0)
  else
    let shift : Int := places - order units
    let mantissa := roundDiv (units * Nat.pow 10 shift.toNat) (one * Nat.pow 10 (-shift).toNat)
    if mantissa = Nat.pow 10 (places + 1) then (Nat.pow 10 places, order units + 1)
    else (mantissa, order units)

/-- A power of ten, with its sign and at least two digits. -/
def exponentChars (order : Int) : List Char :=
  'e' :: (if order < 0 then '-' else '+') :: Text.paddedChars 2 order.natAbs

def scientificChars (pointed : Bool) (places units : Nat) : List Char :=
  let (mantissa, order) := leading places units
  pointBefore pointed places (Text.padLeft (places + 1) '0' (Nat.toDigits 10 mantissa)) ++
    exponentChars order

/-- Removes the zeros at the end of a fraction, and the point if nothing is left after it. -/
def withoutFractionZeros (digits : List Char) : List Char :=
  if '.' ∈ digits then
    let kept := withoutZeros digits
    if kept.getLast? = some '.' then kept.dropLast else kept
  else digits

/-- So many digits, with an exponent below 0.0001 and where the digits do not reach the point. With
`full` the zeros at the end are kept. -/
def generalChars (full : Bool) (count units : Nat) : List Char :=
  let places := count - 1
  let (mantissa, order) := leading places units
  let trimmed := fun digits => if full then digits else withoutFractionZeros digits
  if -4 ≤ order ∧ order ≤ places then
    trimmed (fixedChars full (places - order).toNat units)
  else
    trimmed (pointBefore full places
      (Text.padLeft (places + 1) '0' (Nat.toDigits 10 mantissa))) ++ exponentChars order

end ContainerLogs.Floating
