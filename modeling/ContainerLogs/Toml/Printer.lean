import ContainerLogs.Toml.Value

/-!
The written form of tables in TOML. Plain entries come first, one per line, then the tables below,
each under a header with its full key and after a blank line. A table that only holds tables gets no
header. Arrays that are not empty have one item per line. What has no written form leaves a gap, at
which writing stops. Which entries of a table come under headers is settled before anything of it is
written.
-/
namespace ContainerLogs.Toml

open Settings (Value Table)

namespace Printer

def keyChars (part : String) : List Char :=
  let chars := part.toList
  if ¬ chars.isEmpty ∧ chars.all isBareChar then chars else TextForm.writtenChars chars

def pad (depth : Nat) : List Char := List.replicate (4 * depth) ' '

mutual

/-- A value on the right of an entry, inside so many arrays. -/
def valueChars? (depth : Nat) : Value → Option (List Char)
  | .null => none
  | .truth true => some "true".toList
  | .truth false => some "false".toList
  | .integer n => some (Text.decimalChars n)
  | .real value => some value.chars
  | .moment written => some written.toList
  | .text text => some (TextForm.writtenChars text.toList)
  | .list [] => some ['[', ']']
  | .list items => do
      some ('[' :: '\n' :: (← itemChars? (depth + 1) items) ++ pad depth ++ [']'])
  | .table [] => some ['\x7b', '\x7d']
  | .table entries => do some ('\x7b' :: ' ' :: (← inlineChars? entries) ++ [' ', '\x7d'])

/-- The items of an array, each with its comma and line end. -/
def itemChars? (depth : Nat) : List Value → Option (List Char)
  | [] => some []
  | item :: rest => do
      some (pad depth ++ (← valueChars? depth item) ++ ',' :: '\n' :: (← itemChars? depth rest))

def inlineChars? : List (String × Value) → Option (List Char)
  | [] => some []
  | [(name, value)] => do some (keyChars name ++ " = ".toList ++ (← valueChars? 0 value))
  | (name, value) :: rest => do
      some (keyChars name ++ " = ".toList ++ (← valueChars? 0 value) ++ ", ".toList ++
        (← inlineChars? rest))

end

/-- A piece of the written form; none where a value has none. -/
abbrev Piece := Option (List Char)

def lineWidth : Nat := 100

/-- Whether every item is short enough to stand in an array on one line. Items are looked at up to
the first that is not. -/
def fitInline? : List Value → Option Bool
  | [] => some true
  | item :: rest => do
      let chars ← valueChars? 0 item
      if chars.length + 5 ≤ lineWidth ∧ ¬ chars.contains '\n' then fitInline? rest else some false

def isTable : Value → Bool
  | .table _ => true
  | _ => false

/-- Whether items are written as a list of tables under headers. -/
def isTableList? (items : List Value) : Option Bool :=
  if ¬ items.isEmpty ∧ items.all isTable then (fitInline? items).map (! ·) else some false

/-- Whether a value comes under a header of its own, as far as that can be told. -/
def isHeaded? : Value → Option Bool
  | .table _ => some true
  | .list items => isTableList? items
  | _ => some false

def isHeaded (value : Value) : Bool := isHeaded? value = some true

/-- A gap in place of a table with an entry of which it cannot be told whether it is headed. -/
def unsettled (entries : Table) : List Piece :=
  if entries.all fun entry => (isHeaded? entry.2).isSome then [] else [none]

def entryPiece (name : String) (value : Value) : Piece := do
  some (keyChars name ++ " = ".toList ++ (← valueChars? 0 value) ++ ['\n'])

/-- The plain entries of a table. -/
def plainPieces (entries : Table) : List Piece :=
  (entries.filter fun entry => ¬ isHeaded entry.2).map fun entry => entryPiece entry.1 entry.2

def keyBelow (key : List Char) (name : String) : List Char :=
  if key.isEmpty then keyChars name else key ++ '.' :: keyChars name

def hasHeader (entries : Table) : Bool :=
  entries.any (fun entry => ¬ isHeaded entry.2) ∨ entries.isEmpty

def gap (begun : Bool) : List Piece := if begun then [some ['\n']] else []

mutual

/-- The tables below a key. With `begun`, something was written before them. -/
def tablePieces (key : List Char) : (begun : Bool) → List (String × Value) → List Piece
  | _, [] => []
  | begun, (name, value) :: rest =>
      headedPieces (keyBelow key name) begun value ++
        tablePieces key (begun ∨ isHeaded value) rest

/-- A value with a header of its own; nothing for plain ones. -/
def headedPieces (key : List Char) (begun : Bool) : Value → List Piece
  | .table entries =>
      gap begun ++ unsettled entries ++
        (if hasHeader entries then [some ('[' :: key ++ [']', '\n'])] else []) ++
        plainPieces entries ++ tablePieces key (hasHeader entries) entries
  | .list items => if isTableList? items = some true then listedPieces key begun items else []
  | _ => []

/-- The tables of a list, each under a header of double brackets. -/
def listedPieces (key : List Char) : (begun : Bool) → List Value → List Piece
  | _, [] => []
  | begun, item :: rest =>
      gap begun ++ listedTable key item ++ listedPieces key true rest

/-- A listed table with its header. -/
def listedTable (key : List Char) : Value → List Piece
  | .table entries =>
      unsettled entries ++ [some ("[[".toList ++ key ++ "]]\n".toList)] ++ plainPieces entries ++
        tablePieces key true entries
  | _ => []

end

/-- The whole document in pieces. -/
def pieces (table : Table) : List Piece :=
  unsettled table ++ plainPieces table ++
    tablePieces [] (table.any fun entry => ¬ isHeaded entry.2) table

end Printer

/-- A written document: its text up to the first value that cannot be written. -/
structure Written where
  text : String
  isComplete : Bool

def write (table : Table) : Written :=
  let pieces := Printer.pieces table
  { text := String.ofList ((pieces.takeWhile Option.isSome).flatMap fun piece => piece.getD [])
    isComplete := pieces.all Option.isSome }

end ContainerLogs.Toml
