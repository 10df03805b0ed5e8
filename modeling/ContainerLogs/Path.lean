import ContainerLogs.Text.Blank

/-!
Paths as text. A path keeps its anchor (nothing, `/` or exactly two slashes) and its parts; empty
parts and `.` are dropped, `..` is kept, since only the file tree can say where it leads. Joining
with an anchored path replaces what stands before it.
-/
namespace ContainerLogs

structure Path where
  anchor : String := ""
  parts : List String := []
  deriving DecidableEq, Repr

namespace Path

def partsOf (text : List Char) : List String :=
  ((List.splitOn '/' text).map String.ofList).filter fun part => part ≠ "" ∧ part ≠ "."

def anchorOf : List Char → String
  | '/' :: '/' :: '/' :: _ => "/"
  | '/' :: '/' :: _ => "//"
  | '/' :: _ => "/"
  | _ => ""

def ofText (text : String) : Path := ⟨anchorOf text.toList, partsOf text.toList⟩

def text (path : Path) : String :=
  if path.anchor = "" ∧ path.parts = [] then "."
  else path.anchor ++ "/".intercalate path.parts

def append (front back : Path) : Path :=
  if back.anchor = "" then ⟨front.anchor, front.parts ++ back.parts⟩ else back

/-- `path / name`, where the name may itself hold several parts. -/
def child (path : Path) (name : String) : Path := path.append (ofText name)

def parent (path : Path) : Path := ⟨path.anchor, path.parts.dropLast⟩

theorem length_parent_lt {path : Path} (h : path.parts ≠ []) :
    path.parent.parts.length < path.parts.length := by
  have := List.length_pos_iff.2 h
  simp only [parent, List.length_dropLast]
  omega

def name (path : Path) : String := path.parts.getLast?.getD ""

/-- The name without its extension: the last dot that is neither first nor last, and what follows.
-/
def stem (name : List Char) : List Char :=
  match name.reverse.span (· ≠ '.') with
  | (extension, dot :: front) =>
      if extension.isEmpty ∨ front.isEmpty then name
      else if dot = '.' then front.reverse else name
  | _ => name

/-- Replaces the extension of the last part; a path without parts has none to replace. -/
def withExtension? (path : Path) (extension : String) : Option Path :=
  match path.parts.getLast? with
  | none => none
  | some last =>
      let renamed := String.ofList (stem last.toList ++ extension.toList)
      some ⟨path.anchor, path.parts.dropLast ++ [renamed]⟩

/-- The home directory without trailing slashes. -/
def homeText (home : String) : String :=
  let chars := (home.toList.reverse.dropWhile (· = '/')).reverse
  if chars.isEmpty then "/" else String.ofList chars

def startsWithTilde (text : String) : Bool := text.toList.head? = some '~'

/-- Why a home directory cannot be told. -/
inductive HomeFault where
  | unknown
  /-- The name of the user holds the null character. -/
  | nullInName
  deriving DecidableEq, Repr

/-- The homes that are known: the user's own one, and those of others by name. -/
structure Homes where
  own : String
  others : String → Option String := fun _ => none

def Homes.named? (homes : Homes) (name : String) : Option String :=
  if name = "" then some homes.own else homes.others name

/-- Replaces a leading `~` by the user's own home, and `~name` by the home of the user of that name.
A home must not itself start so. -/
def expandHome (path : Path) (homes : Homes) : Except HomeFault Path :=
  match path.anchor, path.parts with
  | "", first :: rest =>
      match first.toList with
      | '~' :: name =>
          if name.contains '\x00' then .error .nullInName
          else match homes.named? (String.ofList name) with
            | none => .error .unknown
            | some home =>
                if startsWithTilde (homeText home) then .error .unknown
                else .ok ((ofText (homeText home)).append ⟨"", rest⟩)
      | _ => .ok path
  | _, _ => .ok path

@[simp] theorem append_parts (front back : Path) (relative : back.anchor = "") :
    (front.append back).parts = front.parts ++ back.parts := by simp [append, relative]

@[simp] theorem append_anchor (front back : Path) (relative : back.anchor = "") :
    (front.append back).anchor = front.anchor := by simp [append, relative]

end Path

end ContainerLogs
