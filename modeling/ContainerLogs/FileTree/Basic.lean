import ContainerLogs.FileTree.Errno
import ContainerLogs.Text.Utf8

/-!
A file tree: numbered nodes, of which directories name others. Nodes are never renumbered or
forgotten, so a file stays readable through its number after its last name is gone, as it does
through an open descriptor. What the permission bits of a node do not grant is refused, also to its
owner.
-/
namespace ContainerLogs

inductive NodeKind where
  | file (content : Bytes)
  | directory (entries : List (String × Nat)) (parent : Nat)
  | symlink (target : String)
  | fifo
  deriving DecidableEq, Repr

structure Node where
  kind : NodeKind
  owner : Nat := 0
  /-- Permission bits. -/
  mode : Nat
  deriving DecidableEq, Repr

/-- What permission bits grant. Searching is looking up a name in a directory. -/
inductive Right where
  | search | write | read
  deriving DecidableEq, Repr

def Right.bit : Right → Nat
  | search => 0 | write => 1 | read => 2

namespace Node

/-- Whether a user has a right. The owner has bits of their own. -/
def permits (node : Node) (user : Nat) (right : Right) : Bool :=
  (if node.owner = user then node.mode / 64 else node.mode).testBit right.bit

def content (node : Node) : Bytes :=
  match node.kind with
  | .file content => content
  | _ => []

def entries (node : Node) : List (String × Nat) :=
  match node.kind with
  | .directory entries _ => entries
  | _ => []

def isFile (node : Node) : Bool :=
  match node.kind with
  | .file _ => true
  | _ => false

def isDirectory (node : Node) : Bool :=
  match node.kind with
  | .directory .. => true
  | _ => false

end Node

structure FileTree where
  nodes : List Node
  /-- The working directory, where relative paths start. -/
  base : Nat
  /-- The user who makes the requests. -/
  user : Nat := 0
  deriving DecidableEq, Repr

namespace FileTree

/-- The directory absolute paths start from. -/
def root : Nat := 0

/-- An empty working directory below the root. -/
def empty : FileTree where
  nodes := [
    ⟨.directory [("work", 1)] 0, 0, 0o755⟩,
    ⟨.directory [] 0, 0, 0o755⟩]
  base := 1

def node? (tree : FileTree) (number : Nat) : Option Node := tree.nodes[number]?

def permits (tree : FileTree) (number : Nat) (right : Right) : Bool :=
  match tree.node? number with
  | some node => node.permits tree.user right
  | none => false

def content (tree : FileTree) (number : Nat) : Bytes :=
  match tree.node? number with
  | some node => node.content
  | none => []

/-- Changes one node in place. -/
def update (tree : FileTree) (number : Nat) (change : Node → Node) : FileTree :=
  { tree with nodes := tree.nodes.modify number change }

/-- Adds a node under the next free number. -/
def allocate (tree : FileTree) (node : Node) : FileTree × Nat :=
  ({ tree with nodes := tree.nodes ++ [node] }, tree.nodes.length)

def setMode (tree : FileTree) (number mode : Nat) : FileTree :=
  tree.update number fun node => { node with mode := mode }

/-- The mode of a file after its content has changed. It no longer lends the rights of its owner,
nor those of its group if the group may execute it. -/
def modeAfterWriting (mode : Nat) : Nat :=
  if mode &&& 0o2010 = 0o2010 then mode &&& 0o1777 else mode &&& 0o3777

def setContent (tree : FileTree) (number : Nat) (content : Bytes) : FileTree :=
  tree.update number fun node =>
    match node.kind with
    | .file _ => { node with kind := .file content, mode := modeAfterWriting node.mode }
    | _ => node

/-- The content cut or filled with zeros to a size. -/
def resized (content : Bytes) (size : Nat) : Bytes :=
  content.take size ++ List.replicate (size - content.length) 0

def resize (tree : FileTree) (number size : Nat) : FileTree :=
  tree.setContent number (resized (tree.content number) size)

/-- The content after bytes are stored at an offset. -/
def overwritten (content : Bytes) (offset : Nat) (bytes : Bytes) : Bytes :=
  resized content offset ++ bytes ++ content.drop (offset + bytes.length)

def store (tree : FileTree) (number offset : Nat) (bytes : Bytes) : FileTree :=
  if bytes.isEmpty then tree
  else tree.setContent number (overwritten (tree.content number) offset bytes)

def setEntries (tree : FileTree) (number : Nat)
    (change : List (String × Nat) → List (String × Nat)) : FileTree :=
  tree.update number fun node =>
    match node.kind with
    | .directory entries parent => { node with kind := .directory (change entries) parent }
    | _ => node

def link (tree : FileTree) (directory : Nat) (name : String) (target : Nat) : FileTree :=
  tree.setEntries directory fun entries => entries ++ [(name, target)]

def unlink (tree : FileTree) (directory : Nat) (name : String) : FileTree :=
  tree.setEntries directory fun entries => entries.filter (·.1 ≠ name)

def setParent (tree : FileTree) (number parent : Nat) : FileTree :=
  tree.update number fun node =>
    match node.kind with
    | .directory entries _ => { node with kind := .directory entries parent }
    | _ => node

@[simp] theorem node?_update_self (tree : FileTree) (number : Nat) (change : Node → Node) :
    (tree.update number change).node? number = (tree.node? number).map change := by
  simp [node?, update]

@[simp] theorem node?_update_ne (tree : FileTree) {number other : Nat} (change : Node → Node)
    (ne : number ≠ other) : (tree.update number change).node? other = tree.node? other := by
  simp [node?, update, ne]

end FileTree

end ContainerLogs
