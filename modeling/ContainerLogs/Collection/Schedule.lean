import ContainerLogs.FileTree.Change

/-!
What happens to a file tree while logs are collected from it: changes after the directory was
listed, changes when a file is first read, reads that fail after some bytes, and acts of others
before any request that the collection makes. Where bytes are put aside, that may fail as well: a file
is copied before it is handed over, and what takes the record may take no more of it.
-/
namespace ContainerLogs

/-- What befalls the reading of a file. -/
structure ReadEvent where
  changes : List Change := []
  /-- The error that reading ends in, and the number of bytes that come before it. -/
  failure : Option (Errno × Nat) := none
  deriving Repr

/-- What fails of the place where bytes are put aside, the copy of a file or the value of a record,
while they are put down. -/
structure Trouble where
  /-- Handing over starts at the first byte put aside, which cannot be gone back to. -/
  rewinding : Option Errno := none
  /-- Handing over fails, after so many bytes. -/
  handing : Option (Errno × Nat) := none
  /-- The place cannot be closed. -/
  closing : Option Errno := none
  deriving DecidableEq, Repr

structure Schedule where
  /-- Changes made once, after the first directory was listed. -/
  afterListing : List Change := []
  /-- Events by the name of the file. -/
  onRead : List (String × ReadEvent) := []
  /-- What others do before the nth request. -/
  meanwhile : Nat → List Act := fun _ => []
  /-- What fails of a file that is put down after so many requests. -/
  trouble : Nat → Trouble := fun _ => {}

namespace Schedule

def quiet : Schedule := {}

def eventFor (schedule : Schedule) (name : String) : ReadEvent :=
  match schedule.onRead.find? (·.1 = name) with
  | some (_, event) => event
  | none => {}

end Schedule

end ContainerLogs
