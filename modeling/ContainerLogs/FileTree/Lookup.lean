import ContainerLogs.FileTree.Basic
import ContainerLogs.Path

/-!
Where a path leads. Directories are walked part by part, and each in which a name is looked up must
grant it; `..` goes to the real parent and symbolic links are followed where they stand; more than
forty links on one way count as a loop.
-/
namespace ContainerLogs

namespace FileTree

/-- Where a path ends: at a node, or at a free name of a directory. -/
inductive Place where
  | taken (number : Nat)
  | free (directory : Nat) (name : String)
  deriving DecidableEq, Repr

/-- The longest name, in bytes. -/
def maxNameBytes : Nat := 255

/-- The longest path, in bytes. -/
def maxPathBytes : Nat := 4095

def maxLinks : Nat := 40

/-- The names to walk. An empty name at the end asks for a directory, as a final slash does. -/
def steps (text : List Char) : List String :=
  let names := ((List.splitOn '/' text).map String.ofList).filter (· ≠ "")
  if text.getLast? = some '/' then names ++ [""] else names

def isAbsolute (text : List Char) : Bool := text.head? = some '/'

/-- What a path is looked up for: the link that may stand at its end, the node that it leads to, or
a file that is made there if there is none. -/
inductive Purpose where
  | link | node | creation
  deriving DecidableEq, Repr

/-- Walks a whole path or link target. No file is made under a name with a slash after it, whatever
that name leads to. -/
def walkWhole (walk : Nat → List String → Except Errno Place) (purpose : Purpose) (start : Nat)
    (text : List Char) : Except Errno Place :=
  if purpose = .creation ∧ text.getLast? = some '/' then
    match walk start ((steps text).dropLast.dropLast ++ ["."]) with
    | .ok _ => .error .isDirectory
    | .error errno => .error errno
  else walk start (steps text)

/-- Walks the names from a directory. A link goes to `onLink` with the names that remain. -/
def walk (tree : FileTree) (onLink : Nat → List String → Except Errno Place) (purpose : Purpose) :
    Nat → List String → Except Errno Place
  | here, [] => .ok (.taken here)
  | here, name :: rest =>
      match tree.node? here with
      | some ⟨.directory entries parent, _, _⟩ =>
          if name = "" then walk tree onLink purpose here rest
          else if ¬ tree.permits here .search then .error .accessDenied
          else if name = "." then walk tree onLink purpose here rest
          else if name = ".." then walk tree onLink purpose parent rest
          else if maxNameBytes < name.utf8ByteSize then .error .nameTooLong
          else match entries.find? (·.1 = name) with
            | none => if rest.isEmpty then .ok (.free here name) else .error .noEntry
            | some (_, next) =>
                match tree.node? next with
                | some ⟨.symlink target, _, _⟩ =>
                    if rest.isEmpty ∧ purpose = .link then .ok (.taken next)
                    else if target = "" then .error .noEntry
                    else
                      let start := if isAbsolute target.toList then root else here
                      if rest.isEmpty then walkWhole onLink purpose start target.toList
                      else onLink start (steps target.toList ++ rest)
                | _ => walk tree onLink purpose next rest
      | _ => .error .notDirectory

/-- Walks with at most the given number of links. -/
def walkLinks (tree : FileTree) (purpose : Purpose) :
    (links : Nat) → Nat → List String → Except Errno Place
  | 0 => tree.walk (fun _ _ => .error .linkLoop) purpose
  | links + 1 => tree.walk (tree.walkLinks purpose links) purpose

def place (tree : FileTree) (path : String) (purpose : Purpose) : Except Refusal Place :=
  let chars := path.toList
  if chars.contains '\x00' then .error .nullInPath
  else if path = "" then .error (.onPath .noEntry path)
  else if maxPathBytes < path.utf8ByteSize then .error (.onPath .nameTooLong path)
  else
    let start := if isAbsolute chars then root else tree.base
    match walkWhole (tree.walkLinks purpose maxLinks) purpose start chars with
    | .ok place => .ok place
    | .error errno => .error (.onPath errno path)

/-- The node a path leads to. -/
def resolve (tree : FileTree) (path : String) (purpose : Purpose := .node) :
    Except Refusal Nat :=
  match tree.place path purpose with
  | .ok (.taken number) => .ok number
  | .ok (.free ..) => .error (.onPath .noEntry path)
  | .error refusal => .error refusal

def stat (tree : FileTree) (path : String) (purpose : Purpose := .node) : Except Refusal Node := do
  let number ← tree.resolve path purpose
  match tree.node? number with
  | some node => .ok node
  | none => .error (.onPath .noEntry path)

/-- The refusals that only mean that nothing usable is there. -/
def meansAbsent : Refusal → Bool
  | .os errno _ _ => errno = .noEntry ∨ errno = .notDirectory ∨ errno = .linkLoop ∨
      errno = .badDescriptor
  | .nullInPath => true

/-- Whether a path leads to a node that passes a test; other refusals than absence stay. -/
def examine (tree : FileTree) (path : String) (test : Node → Bool) : Except Refusal Bool :=
  match tree.stat path with
  | .ok node => .ok (test node)
  | .error refusal => if meansAbsent refusal then .ok false else .error refusal

def isDirectory (tree : FileTree) (path : String) : Except Refusal Bool :=
  tree.examine path Node.isDirectory

def pathExists (tree : FileTree) (path : String) : Except Refusal Bool :=
  tree.examine path fun _ => true

end FileTree

end ContainerLogs
