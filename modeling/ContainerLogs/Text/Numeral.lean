import ContainerLogs.Text.Blank
import ContainerLogs.Text.DecimalDigit

/-!
Numbers as text. Identifiers hold plain runs of decimal digits of any script; ports are read more
liberally, with blanks around, one sign and single underscores between digits. Neither accepts more
than 4300 digits. Written numbers are padded with zeros, the sign counting towards the width.
-/
namespace ContainerLogs.Text

/-- The most digits a number is read from. -/
def maxDigits : Nat := 4300

def valueOfDigits (digits : List Nat) : Nat := digits.foldl (fun n d => 10 * n + d) 0

inductive NumeralFault where
  | malformed
  | tooLong
  deriving DecidableEq, Repr

/-- The values of a non-empty run of decimal digits. -/
def digitRun? (text : List Char) : Option (List Nat) :=
  if text.isEmpty then none else text.mapM digitValue?

def valueWithin (digits : List Nat) : Except NumeralFault Nat :=
  if digits.length ≤ maxDigits then .ok (valueOfDigits digits) else .error .tooLong

/-- Blanks allowed around a number: of the ASCII characters only the space and the five controls
from tab to carriage return. -/
def isNumberBlank (c : Char) : Bool := isBlank c ∧ ¬ (28 ≤ c.toNat ∧ c.toNat ≤ 31)

/-- Digits with at most one underscore between two of them. -/
def underscoredDigits? (text : List Char) : Option (List Nat) :=
  ((List.splitOn '_' text).mapM digitRun?).map List.flatten

def integer (text : List Char) : Except NumeralFault Int :=
  let (negative, digits) := match trimBy isNumberBlank text with
    | '-' :: rest => (true, rest)
    | '+' :: rest => (false, rest)
    | rest => (false, rest)
  match underscoredDigits? digits with
  | none => .error .malformed
  | some digits => do
      let n ← valueWithin digits
      pure (if negative then -(n : Int) else n)

def padLeft (width : Nat) (fill : Char) (text : List Char) : List Char :=
  List.replicate (width - text.length) fill ++ text

def padRight (width : Nat) (fill : Char) (text : List Char) : List Char :=
  text ++ List.replicate (width - text.length) fill

/-- The decimal form, at least `width` characters wide. -/
def paddedChars (width : Nat) : Int → List Char
  | .ofNat n => padLeft width '0' (Nat.toDigits 10 n)
  | .negSucc n => '-' :: padLeft (width - 1) '0' (Nat.toDigits 10 (n + 1))

def decimalChars (n : Int) : List Char := paddedChars 1 n

def decimal (n : Int) : String := String.ofList (decimalChars n)

end ContainerLogs.Text
