import ContainerLogs.CommandLine.Reach
import Std.Time

/-!
The program on a real machine. What a run may look at is read into a file tree, the run is made on
that tree, and the files that it changed are written back. The owner of a file cannot be asked for
here, so every log file counts as a stranger's and shows up as a mismatch; nor can its permission
bits, so that requests the tree grants may still be turned down by the machine; nor can the homes of
other users, so that none of them is known.
-/
namespace ContainerLogs.Terminal

open CommandLine

/-- Stands for the owner of every file that was there before. -/
def stranger : Nat := 1

def fileMode : Nat := 0o666
def directoryMode : Nat := 0o777

def width : Nat := 80

def variableNames : List String :=
  [Settings.pathVariable] ++ Settings.overrides.map (·.source)

def environment : IO Environment :=
  variableNames.filterMapM fun name => do
    pure ((← IO.getEnv name).map fun value => (name, value))

def machine : IO Machine := do
  let name := (← IO.getEnv "USER").getD "user"
  let home := (← IO.getEnv "HOME").getD "/"
  let now ← Std.Time.PlainDateTime.now
  pure {
    host := { users := [(FileTree.empty.user, name), (stranger, "unknown")] }
    environment := ← environment
    home
    time := now.format "uuuu-MM-dd HH:mm:ss,SSS"
    width }

/-- Puts a file or a directory into the tree. -/
def place (tree : FileTree) (change : Change) (path : String) : FileTree :=
  let (tree, _) := Change.applyAll tree [change]
  match tree.resolve path with
  | .ok number => tree.update number fun node => { node with owner := stranger }
  | .error _ => tree

def bringFile (tree : FileTree) (path : Path) : IO FileTree := do
  let content ← IO.FS.readBinFile path.text
  pure (place tree (.file path.text content.toList tree.user fileMode) path.text)

/-- Brings a file, or a directory with the files in it, into the tree; what is not there is left
out. -/
def bring (tree : FileTree) (path : Path) : IO FileTree := do
  try
    let found ← IO.FS.realPath path.text
    if ← found.isDir then
      let tree := place tree (.directory path.text tree.user directoryMode) path.text
      (← found.readDir).foldlM (fun tree entry => do
        if ← entry.path.isDir then pure tree
        else bringFile tree (path.append ⟨"", [entry.fileName]⟩)) tree
    else bringFile tree path
  catch _ => pure tree

/-- A tree whose working directory is that of the process. -/
def startingTree : IO FileTree := do
  let directory := (← IO.currentDir).toString
  let empty := FileTree.empty
  let tree := place empty (.directory directory empty.user directoryMode) directory
  match tree.resolve directory with
  | .ok number => pure { tree with base := number }
  | .error _ => pure tree

def access (bits : Nat) : IO.AccessRight where
  read := bits &&& 4 ≠ 0
  write := bits &&& 2 ≠ 0
  execution := bits &&& 1 ≠ 0

def rights (mode : Nat) : IO.FileRight :=
  ⟨access (mode / 64), access (mode / 8), access mode⟩

def isThere (path : Path) : IO Bool := do
  try (← IO.FS.realPath path.text).pathExists catch _ => pure false

/-- Makes a directory with the permission bits it has in the tree, unless it is there. -/
def makeDirectory (tree : FileTree) (path : Path) : IO Unit := do
  if ← isThere path then pure ()
  else
    IO.FS.createDirAll path.text
    match tree.stat path.text with
    | .ok node => IO.setAccessRights path.text (rights node.mode)
    | .error _ => pure ()

/-- Writes a file, which has its permission bits before its first byte. -/
def writeFile (path : Path) (content : Bytes) (mode : Nat) : IO Unit := do
  IO.FS.writeBinFile path.text ByteArray.empty
  IO.setAccessRights path.text (rights mode)
  IO.FS.writeBinFile path.text (ByteArray.mk content.toArray)

/-- Writes back a file that differs between two trees. -/
def keep (before after : FileTree) (path : Path) : IO Unit :=
  match after.stat path.text with
  | .error _ => pure ()
  | .ok node =>
      match node.kind with
      | .file content =>
          if (before.stat path.text).toOption = some node then pure ()
          else do
            makeDirectory after path.parent
            writeFile path content node.mode
      | _ => pure ()

end ContainerLogs.Terminal

open ContainerLogs in
def main (arguments : List String) : IO UInt32 := do
  let machine ← Terminal.machine
  let settingsReach := CommandLine.Program.settingsReach machine
  let tree ← settingsReach.foldlM Terminal.bring (← Terminal.startingTree)
  let reach := CommandLine.Program.reach machine arguments tree
  let tree ← reach.foldlM Terminal.bring tree
  let finish := CommandLine.Program.run machine arguments tree
  (settingsReach ++ reach).forM (Terminal.keep tree finish.run.tree)
  IO.print finish.run.output
  IO.eprint finish.run.errors
  pure (UInt32.ofNat finish.exitCode)
