import ContainerLogs.FileTree.Operation

/-!
Scripted changes of a file tree, as other processes make them. A change that is refused part-way
keeps what it has done. Whoever makes a change owns what it creates and needs the rights to it.
-/
namespace ContainerLogs

inductive Change where
  | file (path : String) (content : Bytes) (owner mode : Nat)
  | directory (path : String) (owner mode : Nat)
  | symlink (path target : String)
  | fifo (path : String)
  | append (path : String) (content : Bytes)
  | truncate (path : String) (size : Nat)
  | rename (source target : String)
  | remove (path : String)
  | removeTree (path : String)
  deriving DecidableEq, Repr

namespace Change

open FileTree (Outcome)

def settle (before : FileTree) : Except Refusal FileTree → Outcome
  | .ok tree => (tree, none)
  | .error refusal => (before, some refusal)

def andThen (first : Outcome) (next : FileTree → Except Refusal FileTree) : Outcome :=
  match first with
  | (tree, none) => settle tree (next tree)
  | stopped => stopped

/-- The process that makes the changes. -/
def changing : Process := { umask := 0o022 }

def makeParents (path : String) (tree : FileTree) : Outcome :=
  let parent := (Path.ofText path).parent
  if parent.parts = [] then (tree, none) else tree.makeDirectories changing parent 0o755

/-- Replaces the content of a file, which is made if need be. -/
def replace (path : String) (content : Bytes) (tree : FileTree) : Except Refusal FileTree := do
  let (tree, number) ← tree.openForWriting changing path 0o666
  .ok (tree.setContent number content)

/-- Adds to the end of a file, which is made if need be. -/
def extend (path : String) (content : Bytes) (tree : FileTree) : Except Refusal FileTree := do
  let (tree, number) ← tree.openForWriting changing path 0o666
  .ok (tree.store number (tree.content number).length content)

/-- Removes what a path names, if it names anything. -/
def clear (path : String) (tree : FileTree) : Except Refusal FileTree :=
  match tree.stat path .link with
  | .ok _ => tree.removeFile path
  | .error _ => .ok tree

/-- Gives a node its owner, then its permission bits. -/
def handOver (first : Outcome) (path : String) (owner mode : Nat) : Outcome :=
  andThen (andThen first (·.changeOwner path owner)) (·.changeMode path mode)

def apply (tree : FileTree) : Change → Outcome
  | .file path content owner mode =>
      handOver (andThen (makeParents path tree) (replace path content)) path owner mode
  | .directory path owner mode =>
      handOver (tree.makeDirectories changing (Path.ofText path) 0o755) path owner mode
  | .symlink path target =>
      andThen (makeParents path tree) (·.makeNode path (.symlink target) 0o777)
  | .fifo path =>
      andThen (andThen (makeParents path tree) (clear path))
        (·.makeNode path .fifo (changing.granted 0o666))
  | .append path content => settle tree (extend path content tree)
  | .truncate path size => settle tree (tree.truncate path size)
  | .rename source target => settle tree (tree.rename source target)
  | .remove path => settle tree (tree.removeFile path)
  | .removeTree path => settle tree (tree.removeTree path)

/-- Applies changes in order up to the first that is refused. -/
def applyAll (tree : FileTree) : List Change → Outcome
  | [] => (tree, none)
  | change :: rest =>
      match apply tree change with
      | (tree, none) => applyAll tree rest
      | stopped => stopped

end Change

/-- A change with the user who makes it. -/
structure Act where
  user : Nat
  change : Change
  deriving DecidableEq, Repr

namespace Act

/-- What an act leaves of a tree, refused or not. -/
def perform (tree : FileTree) (act : Act) : FileTree :=
  { (Change.apply { tree with user := act.user } act.change).1 with user := tree.user }

def performAll (tree : FileTree) (acts : List Act) : FileTree := acts.foldl perform tree

end Act

end ContainerLogs
