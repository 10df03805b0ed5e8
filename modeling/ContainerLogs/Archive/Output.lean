import ContainerLogs.FileTree.Operation

/-!
Buffered output to an open file. Small pieces are held back until they fill the buffer; a piece
larger than the buffer goes straight to the file. There may be room for a limited number of bytes
only: what fits is taken, then writing fails. Closing stores what is held and always ends the
output.
-/
namespace ContainerLogs.Archive

structure Output where
  /-- The number of the open file. -/
  file : Nat
  position : Nat := 0
  held : Bytes := []
  /-- How many more bytes are taken, if there is a limit. -/
  room : Option Nat := none
  closeFails : Bool := false
  deriving DecidableEq, Repr

/-- Puts a limit on an output, beside those that it has. -/
def Output.limit (room : Option Nat) (closeFails : Bool) (output : Output) : Output :=
  { output with
    room := match room, output.room with
      | some room, some before => some (min room before)
      | room, before => room.or before
    closeFails := closeFails ∨ output.closeFails }

/-- An output with the file tree it writes to. -/
structure Disk where
  tree : FileTree
  output : Output

namespace Disk

abbrev Writing := EStateM Refusal Disk

def bufferBytes : Nat := 4096

/-- Puts bytes into the file, after those put there before. -/
def store (disk : Disk) (bytes : Bytes) : Disk :=
  { tree := disk.tree.store disk.output.file disk.output.position bytes
    output := { disk.output with position := disk.output.position + bytes.length } }

def hold (disk : Disk) (bytes : Bytes) : Disk :=
  { disk with output := { disk.output with held := bytes } }

/-- Puts what is held back into the file. -/
def flush (disk : Disk) : Disk := (disk.store disk.output.held).hold []

/-- Takes bytes in, by way of the buffer. -/
def accept (disk : Disk) (bytes : Bytes) : Disk :=
  let held := disk.output.held
  if held.length + bytes.length ≤ bufferBytes then disk.hold (held ++ bytes)
  else if bytes.length ≤ bufferBytes then disk.flush.hold bytes
  else disk.flush.store bytes

/-- Takes up room, as far as there is a limit. -/
def occupy (disk : Disk) (count : Nat) : Disk :=
  { disk with output := { disk.output with room := disk.output.room.map (· - count) } }

/-- The bytes there is room for. -/
def fitting (disk : Disk) (bytes : Bytes) : Bytes :=
  match disk.output.room with
  | none => bytes
  | some room => bytes.take room

def write (bytes : Bytes) : Writing Unit := fun disk =>
  let fitting := disk.fitting bytes
  let written := (disk.accept fitting).occupy fitting.length
  if fitting.length < bytes.length then .error (.bare .noSpace) written else .ok () written

/-- Ends the output; what is held back is stored even if closing fails. -/
def close (disk : Disk) : FileTree × Option Refusal :=
  (disk.flush.tree, if disk.output.closeFails then some (.bare .deviceFault) else none)

/-- Writes bytes and closes the file even if they cannot be written. Of two failures, that to close
it is told. -/
def writeOut (bytes : Bytes) (disk : Disk) : FileTree × Option Refusal :=
  let (disk, refused?) :=
    match write bytes disk with
    | .ok _ disk => (disk, none)
    | .error refusal disk => (disk, some refusal)
  let (tree, closing?) := disk.close
  (tree, closing?.or refused?)

/-- All bytes taken in so far. -/
def accepted (disk : Disk) : Bytes :=
  (disk.tree.content disk.output.file).take disk.output.position ++ disk.output.held

end Disk

end ContainerLogs.Archive
