import ContainerLogs.Text.Blank
import ContainerLogs.Text.Cluster

/-!
Laying text out in lines of a given width. Lines break between words; a word wider than a whole line
is cut where the line is full. Blanks at the end of a line that is too long are dropped.
-/
namespace ContainerLogs.Console

namespace Layout

/-- The columns from one tab stop to the next. -/
def tabWidth : Nat := 8

/-- Puts parts together with blanks up to the next tab stop, but at least one, between them. -/
def joinAtTabs (column : Nat) : List (List Char) → List Char
  | [] => []
  | [part] => part
  | part :: rest =>
      let spaced := part ++ [' ']
      let reached := column + Text.cellCount spaced
      let missing := (tabWidth - reached % tabWidth) % tabWidth
      spaced ++ List.replicate missing ' ' ++ joinAtTabs (reached + missing) rest

def expandTabs (text : List Char) : List Char := joinAtTabs 0 (List.splitOn '\t' text)

/-- The words that a text adds to one under way, which is given in reverse; a word is told from mere
blanks by `visible`. -/
def wordsAfter (word : List Char) (visible : Bool) : List Char → List (List Char)
  | [] => if visible then [word.reverse] else []
  | c :: rest =>
      if Text.isBlank c then wordsAfter (c :: word) visible rest
      else if visible ∧ word.head?.any Text.isBlank then
        word.reverse :: wordsAfter [c] true rest
      else wordsAfter (c :: word) true rest

/-- The words of a text, each with the blanks after it, the first one with those before it too. -/
def words (text : List Char) : List (List Char) := wordsAfter [] false text

/-- Cuts a text wherever the next cluster does not fit any more, after the piece under way, which is
given in reverse. -/
def cut (width column : Nat) (piece : List Char) : List Text.Cluster → List (List Char)
  | [] => [piece.reverse]
  | cluster :: rest =>
      if width < column + cluster.width then
        piece.reverse :: cut width cluster.width cluster.chars.reverse rest
      else cut width (column + cluster.width) (cluster.chars.reverse ++ piece) rest

/-- A line under construction: its words, the last one first, and the columns they take. -/
structure Line where
  words : List (List Char)
  column : Nat

namespace Line

def ofWord (word : List Char) : Line := ⟨[word], Text.cellCount word⟩

def push (line : Line) (word : List Char) : Line :=
  ⟨word :: line.words, line.column + Text.cellCount word⟩

def text (line : Line) : List Char := line.words.reverse.flatten

end Line

/-- The columns a word takes without the blanks after it. -/
def visibleWidth (word : List Char) : Nat :=
  Text.cellCount (word.reverse.dropWhile Text.isBlank).reverse

/-- Adds a word to lines of which the last one comes first. -/
def place (width : Nat) (lines : List Line) (word : List Char) : List Line :=
  let column := match lines with
    | [] => 0
    | line :: _ => line.column
  if column + visibleWidth word ≤ width then
    match lines with
    | [] => [.ofWord word]
    | line :: done => line.push word :: done
  else if width < visibleWidth word then
    ((cut width 0 [] (Text.clusters word)).map Line.ofWord).reverse ++ lines
  else .ofWord word :: lines

/-- Drops the blanks at the end of a line that has more characters than it may have columns, as many
of them as it has characters too many. -/
def dropExcessBlanks (width : Nat) (line : List Char) : List Char :=
  let blanks := (line.reverse.takeWhile Text.isBlank).length
  line.take (line.length - min blanks (line.length - width))

/-- The clusters that fit into the width. A wide one that fits only by half leaves a space. -/
def fitting (width : Nat) : List Text.Cluster → List Char
  | [] => []
  | cluster :: rest =>
      if cluster.width ≤ width then cluster.chars ++ fitting (width - cluster.width) rest
      else List.replicate width ' '

/-- A line without what goes beyond the width. -/
def crop (width : Nat) (line : List Char) : List Char :=
  if Text.cellCount line ≤ width then line else fitting width (Text.clusters line)

/-- The lines of a text without line ends, some of which may still be too wide. -/
def wrap (width : Nat) (text : List Char) : List (List Char) :=
  let lines := match words text with
    | [] => [text]
    | words => (words.foldl (place width) []).reverse.map Line.text
  lines.map (dropExcessBlanks width)

/-- The lines of a text, some of which may still be too wide. -/
def broken (width : Nat) (text : List Char) : List (List Char) :=
  (List.splitOn '\n' text).flatMap fun line => wrap width (expandTabs line)

/-- The lines of a text. -/
def lines (width : Nat) (text : List Char) : List (List Char) :=
  (broken width text).map (crop width)

end Layout

end ContainerLogs.Console
