import ContainerLogs.Text.Utf8

/-!
Integers on the wire: big-endian two's complement, four bytes for most lengths and eight bytes for
those of values and contents. A number outside the range of its width is refused.
-/
namespace ContainerLogs.Wire

def intWidth : Nat := 4
def longWidth : Nat := 8

/-- The last `width` base-256 digits of a number. -/
def octets : (width : Nat) → Nat → Bytes
  | 0, _ => []
  | width + 1, n => octets width (n / 256) ++ [UInt8.ofNat n]

def natOf (bytes : Bytes) : Nat := bytes.foldl (fun n octet => 256 * n + octet.toNat) 0

/-- Half the number of values of a width: the first number too large for it. -/
def half (width : Nat) : Nat := Nat.pow 2 (8 * width - 1)

def fits (width : Nat) (n : Int) : Bool := -(half width : Int) ≤ n ∧ n < half width

/-- The two's complement form; numbers outside the range wrap around. -/
def signed (width : Nat) (n : Int) : Bytes := octets width (n % Nat.pow 256 width).toNat

def signedOf (bytes : Bytes) : Int :=
  let n := natOf bytes
  if n < half bytes.length then n else n - Nat.pow 256 bytes.length

structure OutOfRange where
  width : Nat
  number : Int
  deriving DecidableEq, Repr

def signed? (width : Nat) (n : Int) : Except OutOfRange Bytes :=
  if fits width n then .ok (signed width n) else .error ⟨width, n⟩

def int (n : Int) : Bytes := signed intWidth n
def long (n : Int) : Bytes := signed longWidth n

def int? (n : Int) : Except OutOfRange Bytes := signed? intWidth n
def long? (n : Int) : Except OutOfRange Bytes := signed? longWidth n

/-- Bytes after their number, which must fit its field; where that is not known, see `counted?`. -/
def counted (bytes : Bytes) : Bytes := int bytes.length ++ bytes

/-- Bytes after their number, if there are not too many of them for its field. -/
def counted? (bytes : Bytes) : Except OutOfRange Bytes := do .ok ((← int? bytes.length) ++ bytes)

@[simp] theorem length_octets (width n : Nat) : (octets width n).length = width := by
  induction width generalizing n with
  | zero => rfl
  | succ width ih => simp [octets, ih]

@[simp] theorem length_signed (width : Nat) (n : Int) : (signed width n).length = width := by
  simp [signed]

@[simp] theorem length_int (n : Int) : (int n).length = 4 := by simp [int, intWidth]

@[simp] theorem length_long (n : Int) : (long n).length = 8 := by simp [long, longWidth]

@[simp] theorem length_counted (bytes : Bytes) : (counted bytes).length = 4 + bytes.length := by
  simp [counted]

end ContainerLogs.Wire
