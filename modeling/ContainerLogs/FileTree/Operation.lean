import ContainerLogs.FileTree.Lookup

/-!
Requests a process makes of a file tree. Each either yields the new tree or is refused and leaves
the tree alone; only making several directories may stop half-way.
-/
namespace ContainerLogs

/-- A process, by the permission bits that it withholds from what it creates. -/
structure Process where
  umask : Nat := 0o022
  deriving DecidableEq, Repr

namespace Process

/-- The permission bits a new node gets when a mode is asked for. -/
def granted (process : Process) (mode : Nat) : Nat :=
  mode &&& (0o7777 ^^^ (process.umask &&& 0o777))

end Process

namespace FileTree

/-- A directory passes on its set-group bit to the directories made in it. -/
def inheritedMode (tree : FileTree) (directory : Nat) : Nat :=
  match tree.node? directory with
  | some node => node.mode &&& 0o2000
  | none => 0

def makeDirectory (tree : FileTree) (process : Process) (path : String) (mode : Nat) :
    Except Refusal FileTree := do
  match ← tree.place path .link with
  | .taken _ => .error (.onPath .alreadyExists path)
  | .free directory name =>
      if ¬ tree.permits directory .write then .error (.onPath .accessDenied path)
      else
        let mode := process.granted mode ||| tree.inheritedMode directory
        let (tree, number) := tree.allocate ⟨.directory [] directory, tree.user, mode⟩
        .ok (tree.link directory name number)

/-- The tree that a request leaves, and the refusal that ended it. -/
abbrev Outcome := FileTree × Option Refusal

/-- Settles a refused request for a directory: one that is already there is kept. If that cannot be
told, the refusal to tell it counts. -/
def keepDirectory (tree : FileTree) (path : String) (refusal : Refusal) : Outcome :=
  if refusal = .nullInPath then (tree, some refusal)
  else match tree.isDirectory path with
    | .ok true => (tree, none)
    | .ok false => (tree, some refusal)
    | .error other => (tree, some other)

/-- Makes a directory whose ancestors are there, or keeps it. -/
def makeOrKeep (tree : FileTree) (process : Process) (path : String) (mode : Nat) : Outcome :=
  match tree.makeDirectory process path mode with
  | .ok tree => (tree, none)
  | .error refusal =>
      if refusal.errno? = some .noEntry then (tree, some refusal)
      else tree.keepDirectory path refusal

/-- Makes a directory with its missing ancestors. The mode asked for is that of the last one only;
the ancestors are made with all permission bits that the process grants. What was made before a
refusal stays. -/
def makeDirectories (tree : FileTree) (process : Process) (path : Path) (mode : Nat) : Outcome :=
  match tree.makeDirectory process path.text mode with
  | .ok tree => (tree, none)
  | .error refusal =>
      if _absent : refusal.errno? = some .noEntry ∧ path.parts ≠ [] then
        match tree.makeDirectories process path.parent 0o777 with
        | (tree, none) => tree.makeOrKeep process path.text mode
        | stopped => stopped
      else if refusal.errno? = some .noEntry then (tree, some refusal)
      else tree.keepDirectory path.text refusal
termination_by path.parts.length
decreasing_by
  have := List.length_pos_iff.2 _absent.2
  simp only [Path.parent, List.length_dropLast]
  omega

/-- The file to write to at a path, made empty if there is none. -/
def openForWriting (tree : FileTree) (process : Process) (path : String) (mode : Nat) :
    Except Refusal (FileTree × Nat) := do
  match ← tree.place path .creation with
  | .taken number =>
      match tree.node? number with
      | some ⟨.directory .., _, _⟩ => .error (.onPath .isDirectory path)
      | _ =>
          if tree.permits number .write then .ok (tree, number)
          else .error (.onPath .accessDenied path)
  | .free directory name =>
      if ¬ tree.permits directory .write then .error (.onPath .accessDenied path)
      else
        let (tree, number) := tree.allocate ⟨.file [], tree.user, process.granted mode⟩
        .ok (tree.link directory name number, number)

/-- The node that a path leads to, opened for reading whatever its kind is. -/
def openNode (tree : FileTree) (path : String) : Except Refusal Nat := do
  let number ← tree.resolve path
  if tree.permits number .read then .ok number else .error (.onPath .accessDenied path)

/-- The file to read from at a path; directories cannot be read. -/
def openForReading (tree : FileTree) (path : String) : Except Refusal Nat := do
  let number ← tree.openNode path
  match tree.node? number with
  | some ⟨.directory .., _, _⟩ => .error (.onPath .isDirectory path)
  | _ => .ok number

def contentAt (tree : FileTree) (path : String) : Except Refusal Bytes := do
  .ok (tree.content (← tree.openForReading path))

/-- The names in a directory. -/
def directoryEntries (tree : FileTree) (path : String) : Except Refusal (List (String × Nat)) := do
  let number ← tree.resolve path
  match tree.node? number with
  | some ⟨.directory entries _, _, _⟩ =>
      if tree.permits number .read then .ok entries else .error (.onPath .accessDenied path)
  | _ => .error (.onPath .notDirectory path)

/-- Sets the mode of what a path leads to, which only its owner may do. -/
def changeMode (tree : FileTree) (path : String) (mode : Nat) : Except Refusal FileTree := do
  let number ← tree.resolve path
  if (tree.node? number).any (·.owner = tree.user) then .ok (tree.setMode number mode)
  else .error (.onPath .notPermitted path)

/-- Sets the mode of an open file, which only its owner may do. -/
def changeOpenMode (tree : FileTree) (number mode : Nat) : Except Refusal FileTree :=
  if (tree.node? number).any (·.owner = tree.user) then .ok (tree.setMode number mode)
  else .error (.bare .notPermitted)

/-- Empties an open file. A pipe has no content to lose. -/
def emptyOpen (tree : FileTree) (number : Nat) : Except Refusal FileTree :=
  if (tree.node? number).any Node.isFile then .ok (tree.setContent number [])
  else .error (.bare .invalid)

/-- What a path leads to may be given to nobody but the user who makes the request. -/
def changeOwner (tree : FileTree) (path : String) (owner : Nat) : Except Refusal FileTree := do
  let number ← tree.resolve path
  if owner = tree.user then .ok (tree.update number fun node => { node with owner := owner })
  else .error (.onPath .notPermitted path)

/-- Cuts or fills a file at a path. -/
def truncate (tree : FileTree) (path : String) (size : Nat) : Except Refusal FileTree := do
  let number ← tree.resolve path
  match tree.node? number with
  | some ⟨.file _, _, _⟩ =>
      if tree.permits number .write then .ok (tree.resize number size)
      else .error (.onPath .accessDenied path)
  | some ⟨.directory .., _, _⟩ => .error (.onPath .isDirectory path)
  | _ => .error (.onPath .invalid path)

/-- The directory a path's last name stands in, that name, and the node it names. -/
structure Entry where
  directory : Nat
  name : String
  number? : Option Nat
  /-- Whether a slash follows the name. -/
  slashed : Bool

/-- The entry that a path speaks of. A path that ends in no name, in `.` or in `..` is refused with
`unnamed`. -/
def entry (tree : FileTree) (path : String) (unnamed : Errno) (subjects : List String) :
    Except Refusal Entry := do
  let refuse (errno : Errno) : Except Refusal Entry := .error (.os errno none subjects)
  let names := (steps path.toList).filter (· ≠ "")
  let name := names.getLast?.getD "."
  let start := if isAbsolute path.toList then root else tree.base
  if path.toList.contains '\x00' then .error .nullInPath
  else if path = "" then refuse .noEntry
  else if maxPathBytes < path.utf8ByteSize then refuse .nameTooLong
  else match tree.walkLinks .node maxLinks start names.dropLast with
    | .error errno => refuse errno
    | .ok (.free ..) => refuse .noEntry
    | .ok (.taken directory) =>
        match tree.node? directory with
        | some ⟨.directory entries _, _, _⟩ =>
            if ¬ tree.permits directory .search then refuse .accessDenied
            else if name = "." ∨ name = ".." then refuse unnamed
            else if maxNameBytes < name.utf8ByteSize then refuse .nameTooLong
            else .ok {
              directory
              name
              number? := (entries.find? (·.1 = name)).map (·.2)
              slashed := path.toList.getLast? = some '/' }
        | _ => refuse .notDirectory

/-- Makes a link or a pipe under a free name. -/
def makeNode (tree : FileTree) (path : String) (kind : NodeKind) (mode : Nat) :
    Except Refusal FileTree := do
  let entry ← tree.entry path .alreadyExists [path]
  if entry.number?.isSome then .error (.onPath .alreadyExists path)
  else if entry.slashed then .error (.onPath .noEntry path)
  else if ¬ tree.permits entry.directory .write then .error (.onPath .accessDenied path)
  else
    let (tree, number) := tree.allocate ⟨kind, tree.user, mode⟩
    .ok (tree.link entry.directory entry.name number)

/-- Removes a name that leads to anything but a directory. -/
def removeFile (tree : FileTree) (path : String) : Except Refusal FileTree := do
  let entry ← tree.entry path .isDirectory [path]
  match entry.number?.bind tree.node? with
  | none => .error (.onPath .noEntry path)
  | some node =>
      if entry.slashed ∧ ¬ node.isDirectory then .error (.onPath .notDirectory path)
      else if ¬ entry.slashed ∧ ¬ tree.permits entry.directory .write then
        .error (.onPath .accessDenied path)
      else if node.isDirectory then .error (.onPath .isDirectory path)
      else .ok (tree.unlink entry.directory entry.name)

def removeFileIfPresent (tree : FileTree) (path : String) : Except Refusal FileTree :=
  match tree.removeFile path with
  | .ok tree => .ok tree
  | .error refusal =>
      if refusal.errno? = some .noEntry then .ok tree else .error refusal

/-- Moves a name. A file may replace a file and an empty directory an empty directory. -/
def rename (tree : FileTree) (source target : String) : Except Refusal FileTree := do
  let refuse (errno : Errno) : Except Refusal FileTree := .error (.os errno none [source, target])
  let before ← tree.entry source .busy [source, target]
  let after ← tree.entry target .busy [source, target]
  match before.number? with
  | none => refuse .noEntry
  | some number =>
      let moved :=
        ((tree.unlink before.directory before.name).unlink after.directory after.name).link
          after.directory after.name number
      let isDirectory := ((tree.node? number).map Node.isDirectory).getD false
      let moved := if isDirectory then moved.setParent number after.directory else moved
      let permitted := tree.permits before.directory .write ∧ tree.permits after.directory .write
      match after.number? with
      | none => if permitted then .ok moved else refuse .accessDenied
      | some other =>
          if other = number then .ok tree
          else if ¬ permitted then refuse .accessDenied
          else match tree.node? other, isDirectory with
            | some ⟨.directory .., _, _⟩, false => refuse .isDirectory
            | some ⟨.directory entries _, _, _⟩, true =>
                if entries.isEmpty then .ok moved else refuse .notEmpty
            | _, true => refuse .notDirectory
            | _, false => .ok moved

/-- The entries of a directory that grants reading them. -/
def readableEntries (tree : FileTree) (number : Nat) : List (String × Nat) :=
  if tree.permits number .read then ((tree.node? number).map Node.entries).getD [] else []

/-- Everything below a directory, as paths from it, links not followed and unreadable directories
not entered. The depth bounds the walk; a directory lies at most as deep as there are nodes. -/
def pathsBelow (tree : FileTree) : (depth : Nat) → (number : Nat) → List (List String)
  | 0, _ => []
  | depth + 1, number =>
      (tree.readableEntries number).flatMap fun (name, next) =>
        [name] :: (if tree.permits number .search then tree.pathsBelow depth next else []).map
          (name :: ·)

def listing (tree : FileTree) (path : String) : Except Refusal (List String) := do
  let _ ← tree.directoryEntries path
  let below := tree.pathsBelow (tree.nodes.length + 1) (← tree.resolve path)
  let base := Path.ofText path
  .ok ((below.map fun parts => (base.append ⟨"", parts⟩).text).mergeSort
    fun a b => decide (a ≤ b))

/-- Whether a directory and all below it may be emptied. What is no directory may be removed by
whoever may change the directory that it stands in. -/
def emptiable (tree : FileTree) : (depth : Nat) → (number : Nat) → Bool
  | 0, _ => true
  | depth + 1, number =>
      match tree.node? number with
      | some ⟨.directory entries _, _, _⟩ =>
          tree.permits number .read ∧
            (entries.isEmpty ∨ (tree.permits number .write ∧ tree.permits number .search)) ∧
            entries.all fun (_, next) => tree.emptiable depth next
      | _ => true

/-- Removes a directory with all that is in it. -/
def removeTree (tree : FileTree) (path : String) : Except Refusal FileTree := do
  let _ ← tree.openNode path
  let entry ← tree.entry path .invalid [path]
  match entry.number? with
  | none => .error (.onPath .noEntry path)
  | some number =>
      if ¬ ((tree.node? number).any Node.isDirectory) then .error (.onPath .notDirectory path)
      else if tree.permits entry.directory .write ∧ tree.emptiable tree.nodes.length number then
        .ok (tree.unlink entry.directory entry.name)
      else .error (.onPath .accessDenied path)

end FileTree

end ContainerLogs
