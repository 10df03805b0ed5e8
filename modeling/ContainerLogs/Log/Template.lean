import ContainerLogs.Log.Place

/-!
Message templates. A percent sign opens a place, which may name the entry it takes, has flags, a
width and a precision, and ends with the letter of its form. A star takes the width or the precision
from the values too. Two percent signs stand for one.
-/
namespace ContainerLogs

/-- Where the places of a template take their values from: one after the other, or by name. -/
structure LogArguments where
  table : Option Settings.Table := none
  pending : List Settings.Value

namespace LogArguments

/-- A table with entries that is the only argument also gives its entries by name. -/
def ofList : List Settings.Value → LogArguments
  | [.table (entry :: entries)] =>
      { table := some (entry :: entries), pending := [.table (entry :: entries)] }
  | values => { pending := values }

/-- The entry of a name takes the place of all values that are left. -/
def select? (arguments : LogArguments) : Option (List Char) → Option LogArguments
  | none => some arguments
  | some name => do
      let value ← (← arguments.table).get? (String.ofList name)
      some { arguments with pending := [value] }

def next? (arguments : LogArguments) : Option (Settings.Value × LogArguments) :=
  match arguments.pending with
  | [] => none
  | value :: pending => some (value, { arguments with pending })

/-- Values may be left over only beside a table. -/
def isSpent (arguments : LogArguments) : Bool :=
  arguments.table.isSome ∨ arguments.pending.isEmpty

end LogArguments

/-- A width or a precision as a template gives it. -/
inductive LogSize where
  | given (size : Nat)
  /-- To be taken from the values. -/
  | star
  deriving DecidableEq, Repr

/-- A place as it is written. -/
structure LogDirective where
  name : Option (List Char) := none
  flags : List Char := []
  width : Option LogSize := none
  precision : Option LogSize := none
  letter : Char

namespace LogDirective

def isFlag (c : Char) : Bool := c ∈ ['-', '+', ' ', '#', '0']

def isLengthMark (c : Char) : Bool := c ∈ ['h', 'l', 'L']

/-- The name of an entry, up to the bracket that closes it, and what follows; brackets within the
name come in pairs. -/
def readName? (depth : Nat) : List Char → Option (List Char × List Char)
  | [] => none
  | ')' :: rest =>
      if depth = 0 then some ([], rest)
      else (readName? (depth - 1) rest).map fun (name, rest) => (')' :: name, rest)
  | '(' :: rest => (readName? (depth + 1) rest).map fun (name, rest) => ('(' :: name, rest)
  | c :: rest => (readName? depth rest).map fun (name, rest) => (c :: name, rest)

/-- A size, if there is one, and what follows. -/
def readSize : List Char → Option LogSize × List Char
  | '*' :: rest => (some .star, rest)
  | input =>
      let digits := input.takeWhile Char.isDigit
      (if digits.isEmpty then none
        else some (.given (Text.valueOfDigits (digits.map fun c => c.toNat - '0'.toNat))),
        input.dropWhile Char.isDigit)

/-- The precision, zero if nothing stands after its point. -/
def readPrecision : List Char → Option LogSize × List Char
  | '.' :: rest => (some ((readSize rest).1.getD (.given 0)), (readSize rest).2)
  | input => (none, input)

/-- The letter, after at most one mark of length, which says nothing. -/
def readLetter? : List Char → Option (Char × List Char)
  | [] => none
  | [letter] => some (letter, [])
  | mark :: letter :: rest =>
      if isLengthMark mark then some (letter, rest) else some (mark, letter :: rest)

/-- Everything after the name. -/
def readShape? (name : Option (List Char)) (input : List Char) :
    Option (LogDirective × List Char) := do
  let (width, afterWidth) := readSize (input.dropWhile isFlag)
  let (precision, afterPrecision) := readPrecision afterWidth
  let (letter, rest) ← readLetter? afterPrecision
  some ({ name, flags := input.takeWhile isFlag, width, precision, letter }, rest)

/-- Reads a place after its percent sign. -/
def read? : List Char → Option (LogDirective × List Char)
  | '(' :: rest => do
      let (name, rest) ← readName? 0 rest
      readShape? (some name) rest
  | input => readShape? none input

theorem readName?_length {depth : Nat} {input name rest : List Char}
    (h : readName? depth input = some (name, rest)) : rest.length < input.length := by
  induction input generalizing depth name rest with
  | nil => simp [readName?] at h
  | cons c tail ih =>
      unfold readName? at h
      split at h <;> simp_all only [List.length_cons, reduceCtorEq, List.cons.injEq]
      · split at h
        · simp_all
        · obtain ⟨_, held, same⟩ := Option.map_eq_some_iff.1 h
          cases same
          have := ih held
          omega
      all_goals
        obtain ⟨_, held, same⟩ := Option.map_eq_some_iff.1 h
        cases same
        have := ih held
        omega

theorem readSize_length (input : List Char) : (readSize input).2.length ≤ input.length := by
  unfold readSize
  split
  · exact Nat.le_succ _
  · exact (List.dropWhile_sublist _).length_le

theorem readPrecision_length (input : List Char) :
    (readPrecision input).2.length ≤ input.length := by
  unfold readPrecision
  split
  · exact Nat.le_succ_of_le (readSize_length _)
  · exact Nat.le_refl _

theorem readLetter?_length {input rest : List Char} {letter : Char}
    (h : readLetter? input = some (letter, rest)) : rest.length < input.length := by
  unfold readLetter? at h
  split at h
  · simp at h
  · simp_all
  · split at h <;> (cases h; simp only [List.length_cons]; omega)

theorem readShape?_length {name : Option (List Char)} {input rest : List Char}
    {directive : LogDirective} (h : readShape? name input = some (directive, rest)) :
    rest.length < input.length := by
  obtain ⟨⟨letter, left⟩, held, same⟩ := Option.bind_eq_some_iff.1 h
  cases same
  have dropped : (input.dropWhile isFlag).length ≤ input.length :=
    (List.dropWhile_sublist _).length_le
  have width := readSize_length (input.dropWhile isFlag)
  have precision := readPrecision_length (readSize (input.dropWhile isFlag)).2
  have last := readLetter?_length held
  exact Nat.lt_of_lt_of_le last (Nat.le_trans precision (Nat.le_trans width dropped))

theorem read?_length {input rest : List Char} {directive : LogDirective}
    (h : read? input = some (directive, rest)) : rest.length < input.length := by
  unfold read? at h
  split at h
  · obtain ⟨⟨name, left⟩, named, shaped⟩ := Option.bind_eq_some_iff.1 h
    exact Nat.lt_succ_of_lt (Nat.lt_trans (readShape?_length shaped) (readName?_length named))
  · exact readShape?_length h

/-- The widest place that there is room for. -/
def maxWidth : Nat := Nat.pow 2 32

def maxPrecision : Nat := Nat.pow 2 31 - 1

/-- A size below a bound; a value that it is taken from may be negative. -/
def size? (bound : Nat) (arguments : LogArguments) :
    LogSize → Option (Int × LogArguments)
  | .given size => if size ≤ bound then some (size, arguments) else none
  | .star => do
      let (value, arguments) ← arguments.next?
      let size ← value.index?
      if size.natAbs ≤ bound then some (size, arguments) else none

/-- What a place shows, and the values that are left. A negative width is one that the text begins
at the left end of; a negative precision counts as zero. -/
def fill? (directive : LogDirective) (arguments : LogArguments) :
    Option (List Char × LogArguments) := do
  let arguments ← arguments.select? directive.name
  let (width, arguments) ← size? maxWidth arguments (directive.width.getD (.given 0))
  let (precision, arguments) ← match directive.precision with
    | none => some (none, arguments)
    | some size => (size? maxPrecision arguments size).map fun (precision, arguments) =>
        (some precision.toNat, arguments)
  let (form, capitals) ← LogForm.ofLetter? directive.letter
  let flags := if width < 0 then '-' :: directive.flags else directive.flags
  let (value, arguments) ← arguments.next?
  let place : LogPlace := { form, capitals, flags, width := width.natAbs, precision }
  some (← place.shown? value, arguments)

end LogDirective

/-- Fills the places of a template, if the arguments fit. -/
def LogArguments.fill? (arguments : LogArguments) (template : List Char) : Option (List Char) :=
  match template with
  | [] => if arguments.isSpent then some [] else none
  | '%' :: '%' :: rest => (arguments.fill? rest).map ('%' :: ·)
  | '%' :: tail =>
      match _read : LogDirective.read? tail with
      | none => none
      | some (directive, rest) => do
          let (shown, left) ← directive.fill? arguments
          some (shown ++ (← left.fill? rest))
  | c :: rest => (arguments.fill? rest).map (c :: ·)
termination_by template.length
decreasing_by
  · simp only [List.length_cons]
    omega
  · have := LogDirective.read?_length _read
    simp only [List.length_cons]
    omega
  · simp

end ContainerLogs
