/-!
UTF-8. One octet machine serves both readings of a byte string: it yields a character for each
well-formed sequence and a hole for each longest ill-formed part. Strict decoding refuses holes,
lenient decoding shows U+FFFD for each. The machine keeps its state between pieces, so a text may
arrive in pieces of any size.
-/
namespace ContainerLogs

abbrev Bytes := List UInt8

namespace Text.Utf8

def encodeChar (c : Char) : Bytes :=
  let n := c.toNat
  if n < 0x80 then [UInt8.ofNat n]
  else if n < 0x800 then [UInt8.ofNat (0xC0 + n / 0x40), UInt8.ofNat (0x80 + n % 0x40)]
  else if n < 0x10000 then
    [UInt8.ofNat (0xE0 + n / 0x1000), UInt8.ofNat (0x80 + n / 0x40 % 0x40),
      UInt8.ofNat (0x80 + n % 0x40)]
  else
    [UInt8.ofNat (0xF0 + n / 0x40000), UInt8.ofNat (0x80 + n / 0x1000 % 0x40),
      UInt8.ofNat (0x80 + n / 0x40 % 0x40), UInt8.ofNat (0x80 + n % 0x40)]

def encodeChars (text : List Char) : Bytes := text.flatMap encodeChar

def encode (text : String) : Bytes := encodeChars text.toList

/-- What the machine holds between octets. A pending sequence knows the value gathered so far, how
many octets it still lacks and the range the next one must lie in. -/
inductive State where
  | start
  | pending (value lacking low high : Nat)
  deriving DecidableEq, Repr

/-- A decoded character, or `none` for an ill-formed part. -/
abbrev Decoded := Option Char

/-- The first octet of a sequence. -/
def lead (octet : Nat) : State × List Decoded :=
  if octet < 0x80 then (.start, [some (Char.ofNat octet)])
  else if octet < 0xC2 then (.start, [none])
  else if octet < 0xE0 then (.pending (octet - 0xC0) 1 0x80 0xBF, [])
  else if octet = 0xE0 then (.pending 0 2 0xA0 0xBF, [])
  else if octet = 0xED then (.pending 0xD 2 0x80 0x9F, [])
  else if octet < 0xF0 then (.pending (octet - 0xE0) 2 0x80 0xBF, [])
  else if octet = 0xF0 then (.pending 0 3 0x90 0xBF, [])
  else if octet < 0xF4 then (.pending (octet - 0xF0) 3 0x80 0xBF, [])
  else if octet = 0xF4 then (.pending 4 3 0x80 0x8F, [])
  else (.start, [none])

/-- An octet that does not fit a pending sequence ends it as ill-formed and starts afresh. -/
def step (state : State) (octet : UInt8) : State × List Decoded :=
  match state with
  | .start => lead octet.toNat
  | .pending value lacking low high =>
      if low ≤ octet.toNat ∧ octet.toNat ≤ high then
        let value := value * 0x40 + octet.toNat % 0x40
        if lacking ≤ 1 then (.start, [some (Char.ofNat value)])
        else (.pending value (lacking - 1) 0x80 0xBF, [])
      else
        let (state, units) := lead octet.toNat
        (state, none :: units)

/-- What the end of the bytes leaves of a pending sequence. -/
def finish : State → List Decoded
  | .start => []
  | .pending .. => [none]

/-- Runs the machine over a piece, adding its units in reverse to those before. -/
def feed (bytes : Bytes) (state : State) (units : List Decoded) : State × List Decoded :=
  bytes.foldl (fun (state, units) octet =>
    let (state, new) := step state octet
    (state, new.reverseAux units)) (state, units)

@[simp] theorem feed_nil (state : State) (units : List Decoded) :
    feed [] state units = (state, units) := rfl

theorem feed_append (front back : Bytes) (state : State) (units : List Decoded) :
    feed (front ++ back) state units =
      feed back (feed front state units).1 (feed front state units).2 := by
  simp [feed, List.foldl_append]

def units (bytes : Bytes) : List Decoded :=
  let (state, units) := feed bytes .start []
  units.reverse ++ finish state

/-- The text whose UTF-8 form the bytes are, if they are well formed. -/
def decodeChars? (bytes : Bytes) : Option (List Char) := (units bytes).mapM id

def decode? (bytes : Bytes) : Option String := (decodeChars? bytes).map String.ofList

def shown (unit : Decoded) : Char := unit.getD '\uFFFD'

/-- Decodes any bytes, with U+FFFD for every ill-formed part. -/
def decodeLenient (bytes : Bytes) : String := String.ofList ((units bytes).map shown)

end Text.Utf8

end ContainerLogs
