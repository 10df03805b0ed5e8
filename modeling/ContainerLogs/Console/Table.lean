import ContainerLogs.Console.Layout

/-!
Tables with a title over them and a frame around them, heavy down to the headings. Each column is as
wide as its longest cell with a blank on either side.
-/
namespace ContainerLogs.Console

inductive Alignment where
  | left | right
  deriving DecidableEq, Repr

structure Column where
  heading : String
  alignment : Alignment := .left
  deriving DecidableEq, Repr

structure Table where
  title : List Char
  columns : List Column
  rows : List (List String)

namespace Table

/-- The characters of a horizontal rule: its start, its line, its crossings and its end. -/
structure Rule where
  first : Char
  line : Char
  crossing : Char
  last : Char

def topRule : Rule := ⟨'┏', '━', '┳', '┓'⟩
def headingRule : Rule := ⟨'┡', '━', '╇', '┩'⟩
def bottomRule : Rule := ⟨'└', '─', '┴', '┘'⟩

def headingEdge : Char := '┃'
def rowEdge : Char := '│'

/-- The cells of each column, headings included. -/
def width (table : Table) (index : Nat) (column : Column) : Nat :=
  ((column.heading :: table.rows.filterMap (·[index]?)).map fun cell =>
    Text.cellCount cell.toList).foldl max 0

def widths (table : Table) : List Nat :=
  table.columns.mapIdx fun index column => table.width index column

def blanks (count : Nat) : List Char := List.replicate count ' '

def aligned (alignment : Alignment) (width : Nat) (cell : List Char) : List Char :=
  let padding := blanks (width - Text.cellCount cell)
  match alignment with
  | .left => cell ++ padding
  | .right => padding ++ cell

def ruleLine (rule : Rule) (widths : List Nat) : List Char :=
  rule.first :: [rule.crossing].intercalate
    (widths.map fun width => List.replicate (width + 2) rule.line) ++ [rule.last]

def cellLine (edge : Char) (columns : List Column) (widths : List Nat) (cells : List String) :
    List Char :=
  edge :: [edge].intercalate ((columns.zip (widths.zip cells)).map fun (column, width, cell) =>
    ' ' :: aligned column.alignment width cell.toList ++ [' ']) ++ [edge]

/-- The columns that the whole table takes. -/
def totalWidth (widths : List Nat) : Nat := widths.foldl (fun n width => n + width + 3) 1

def withoutTrailingBlanks (line : List Char) : List Char :=
  (line.reverse.dropWhile Text.isBlank).reverse

/-- A line in the middle of a width; of an odd padding the larger half comes after it. -/
def centred (width : Nat) (line : List Char) : List Char :=
  let line := Layout.crop width (withoutTrailingBlanks line)
  let padding := width - Text.cellCount line
  blanks (padding / 2) ++ line ++ blanks (padding - padding / 2)

def lines (table : Table) : List (List Char) :=
  let widths := table.widths
  let total := totalWidth widths
  (Layout.broken total table.title).map (centred total) ++
    [ruleLine topRule widths,
      cellLine headingEdge table.columns widths (table.columns.map (·.heading)),
      ruleLine headingRule widths] ++
    table.rows.map (cellLine rowEdge table.columns widths) ++
    [ruleLine bottomRule widths]

end Table

end ContainerLogs.Console
