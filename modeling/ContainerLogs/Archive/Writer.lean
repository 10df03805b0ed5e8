import ContainerLogs.Archive.Key
import ContainerLogs.Archive.Output
import ContainerLogs.Collection.Collector

/-!
Writing an archive: a preamble of two records that say its format and its owner, then one record per
collection. The file gets its mode before it is emptied and before its first byte, and a write that
fails closes the writer, so that nothing ever follows a torn record.
-/
namespace ContainerLogs.Archive

/-- A record as it stands in the file. -/
def recordBytes (key value : Bytes) : Bytes :=
  Wire.counted key ++ (Wire.long value.length ++ value)

def fileMode : Nat := 0o640
def directoryMode : Nat := 0o750
def formatVersion : Int := 1

/-- The records that every archive starts with. -/
def preamble (identity : String) : List (Bytes × Bytes) :=
  [(Text.Utf8.encode versionName, Wire.int formatVersion),
    (Text.Utf8.encode ownerName, Text.Utf8.encode identity)]

structure Writer where
  path : Path
  identity : String
  /-- The open file; none once the writer is closed. -/
  output : Option Output
  deriving DecidableEq, Repr

def Writer.isClosed (writer : Writer) : Bool := writer.output.isNone

def Writer.limit (writer : Writer) (room : Option Nat) (closeFails : Bool) : Writer :=
  { writer with output := writer.output.map (Output.limit room closeFails) }

/-- What goes wrong with the file of an archive, whatever is asked of it. -/
structure Conditions where
  modeFails : Bool := false
  truncateFails : Bool := false
  room : Option Nat := none
  closeFails : Bool := false
  deriving DecidableEq, Repr

inductive WriteFault where
  | creation (path : String) (refusal : Refusal)
  | mode (path : String) (refusal : Refusal)
  | truncation (path : String) (refusal : Refusal)
  /-- The preamble could not be written. -/
  | header (path : String) (refusal : Refusal)
  | tornRecord (path : String) (refusal : Refusal)
  | closed (path : String)
  /-- A length that does not fit its field. -/
  | outOfRange (fault : Wire.OutOfRange)
  | key (fault : KeyFault)
  | collection (fault : CollectFault)
  /-- A refusal that is passed on as it is. -/
  | refused (refusal : Refusal)
  deriving DecidableEq, Repr

namespace WriteFault

def tornMessage (path : String) (refusal : Refusal) : String :=
  "Writing a record to " ++ path ++ " failed; the archive ends in a partial record and the " ++
    "writer is closed: " ++ refusal.message

def message : WriteFault → String
  | creation path refusal => "Cannot create archive " ++ path ++ ": " ++ refusal.message
  | mode path refusal =>
      "Cannot set mode " ++ String.ofList (Nat.toDigits 8 fileMode) ++ " on archive " ++ path ++
        ": " ++ refusal.message
  | truncation path refusal => "Cannot truncate archive " ++ path ++ ": " ++ refusal.message
  | header path refusal =>
      "Cannot write archive header to " ++ path ++ ": " ++ tornMessage path refusal
  | tornRecord path refusal => tornMessage path refusal
  | closed path => "Archive writer for " ++ path ++ " is closed"
  | outOfRange fault => Text.decimal fault.number ++ " is too large for its field"
  | key fault => fault.message
  | collection (.root refusal) | collection (.storage _ refusal) => refusal.message
  | collection .owner => "The expected owner is not known"
  | collection (.oversized _ fault) => Text.decimal fault.number ++ " is too large for its field"
  | refused refusal => refusal.message

end WriteFault

/-- A writer at work on a file tree, with what it has to say in the log. -/
structure Session where
  tree : FileTree
  writer : Writer
  journal : List LogRecord := []

namespace Session

abbrev Acting := EStateM WriteFault Session

def logger : String := "logarchive.archive.writer"

def note (severity : Severity) (message : String) : Acting Unit :=
  modify fun session =>
    { session with journal := session.journal ++ [{ severity, logger, message }] }

def abandonMessage (path : String) (refusal : Refusal) : String :=
  "Error closing abandoned archive " ++ path ++ ": " ++ refusal.message

/-- The pieces that a record is written in, if its lengths fit their fields. -/
def recordPieces? (key value : Bytes) : Except Wire.OutOfRange (List Bytes) := do
  .ok [← Wire.int? key.length, key, ← Wire.long? value.length, value]

/-- Lets go of a file that was closed, whether or not that failed. -/
def letGo (closed : FileTree × Option Refusal) : Acting Unit := do
  let (tree, refusal?) := closed
  modify fun session =>
    { session with tree, writer := { session.writer with output := none } }
  match refusal? with
  | none => pure ()
  | some refusal => note .warning (abandonMessage (← get).writer.path.text refusal)

/-- Gives up the file after a failed write. -/
def abandon (disk : Disk) : Acting Unit := letGo disk.close

/-- The open file of the writer. -/
def requireOpen : Acting Output := do
  let writer := (← get).writer
  match writer.output with
  | some output => pure output
  | none => throw (.closed writer.path.text)

/-- Writes the pieces of a record; a failure part-way closes the writer. -/
def writePieces (output : Output) (pieces : List Bytes) : Acting Unit := do
  let session ← get
  match pieces.forM Disk.write ⟨session.tree, output⟩ with
  | .ok _ disk =>
      set { session with
        tree := disk.tree
        writer := { session.writer with output := some disk.output } }
  | .error refusal disk => do
      abandon disk
      throw (.tornRecord session.writer.path.text refusal)

/-- Writes one record. A key whose length does not fit its field is refused before the first byte. A
value has a length that fits: what it is put aside in counts its bytes in a field of that width. -/
def writeRecord (key value : Bytes) : Acting Unit := do
  let output ← requireOpen
  match recordPieces? key value with
  | .error fault => throw (.outOfRange fault)
  | .ok pieces => writePieces output pieces

/-- Writes one record whose value is read back from where it was put aside. A read that fails, after
some bytes of the value, tears the record. -/
def writeSpooled (key value : Bytes) (reading : Option (Errno × Nat)) : Acting Unit := do
  match reading with
  | none => writeRecord key value
  | some (errno, given) =>
      if value.length < given then writeRecord key value
      else do
        let output ← requireOpen
        match recordPieces? key value with
        | .error fault => throw (.outOfRange fault)
        | .ok pieces => do
            writePieces output (pieces.dropLast ++ [value.take given])
            let output ← requireOpen
            abandon ⟨(← get).tree, output⟩
            throw (.tornRecord (← get).writer.path.text (.bare errno))

/-- Makes the directories of an archive and opens its file, without touching what is in it. -/
def openFile (process : Process) (path : Path) (tree : FileTree) : FileTree × Except Refusal Nat :=
  match tree.makeDirectories process path.parent directoryMode with
  | (tree, some refusal) => (tree, .error refusal)
  | (tree, none) =>
      match tree.openForWriting process path.text fileMode with
      | .error refusal => (tree, .error refusal)
      | .ok (tree, number) => (tree, .ok number)

/-- The fault of a request that is part of the opening; a null in a path is no fault of the archive.
-/
def openingFault (fault : Refusal → WriteFault) (refusal : Refusal) : WriteFault :=
  if refusal = .nullInPath then .refused refusal else fault refusal

def writePreamble (identity : String) : Acting Unit :=
  (preamble identity).forM fun (key, value) => writeRecord key value

/-- A request that may be made to fail. -/
def attempted (fails : Bool) (request : Except Refusal FileTree) : Except Refusal FileTree :=
  if fails then .error (.bare .notPermitted) else request

/-- Gives an open file the mode of an archive and then empties it: the tree that this leaves, and
what went wrong. -/
def takeOver (conditions : Conditions) (path : String) (file : Nat) (tree : FileTree) :
    FileTree × Option WriteFault :=
  match attempted conditions.modeFails (tree.changeOpenMode file fileMode) with
  | .error refusal => (tree, some (.mode path refusal))
  | .ok tree =>
      match attempted conditions.truncateFails (tree.emptyOpen file) with
      | .error refusal => (tree, some (.truncation path refusal))
      | .ok tree => (tree, none)

/-- A file tree with the log of what was done to it. -/
structure Trace where
  tree : FileTree
  journal : List LogRecord := []

/-- What an opening ends in once the preamble is written, or could not be. -/
def handOut (path : Path) (identity : String) :
    EStateM.Result WriteFault Session Unit → EStateM.Result WriteFault Trace Writer
  | .error (.tornRecord _ refusal) session =>
      .error (.header path.text refusal) ⟨session.tree, session.journal⟩
  | .error fault session => .error fault ⟨session.tree, session.journal⟩
  | .ok () session =>
      let created : LogRecord := {
        severity := .info
        logger := logger
        message := "Created log archive " ++ path.text ++ " for " ++ identity }
      .ok session.writer ⟨session.tree, session.journal ++ [created]⟩

/-- A writer that has taken over its file and has written nothing yet. -/
def begun (conditions : Conditions) (path : Path) (identity : String) (file : Nat) (trace : Trace)
    (taken : FileTree) : Session :=
  ⟨taken, ⟨path, identity, some { file, room := conditions.room, closeFails := conditions.closeFails }⟩,
    trace.journal⟩

/-- Opens an archive, in place of what stands at its path. -/
def start (process : Process) (conditions : Conditions) (path : Path) (identity : String) :
    EStateM WriteFault Trace Writer := fun trace =>
  match openFile process path trace.tree with
  | (tree, .error refusal) =>
      .error (openingFault (.creation path.text) refusal) { trace with tree }
  | (tree, .ok file) =>
      match takeOver conditions path.text file tree with
      | (tree, some fault) => .error fault { trace with tree }
      | (tree, none) =>
          handOut path identity
            (writePreamble identity (begun conditions path identity file trace tree))

def liftKey (key : Key) : Acting Bytes :=
  match key.bytes with
  | .ok bytes => pure bytes
  | .error fault => throw (.key fault)

/-- Collects, and keeps what became of the file tree, of the log and of the owner's questions. -/
def collect (collector : Collector) (host : Host) (schedule : Schedule) (queries : Nat) :
    Acting Collection := fun session =>
  match collector.produce host schedule session.tree queries with
  | .ok () collection =>
      .ok collection
        { session with tree := collection.tree, journal := session.journal ++ collection.journal }
  | .error fault collection =>
      .error (.collection fault)
        { session with tree := collection.tree, journal := session.journal ++ collection.journal }

/-- Passes on that something failed. -/
def raise (errno? : Option Errno) : Acting Unit :=
  errno?.forM fun errno => throw (.refused (.bare errno))

/-- Closes what was put aside once a step is over, done or not; if that fails, nothing else is heard of
the step. -/
def releasing {α : Type} (closing : Option Errno) (step : Acting α) : Acting α := fun session =>
  match closing, step session with
  | none, result => result
  | some errno, .ok _ session | some errno, .error _ session =>
      .error (.refused (.bare errno)) session

def announce (key : Key) (collection : Collection) : Acting Unit := do
  note .info ("Appended " ++ key.text ++ " to " ++ (← get).writer.path.text ++ " (" ++
    Text.decimal collection.value.length ++ " bytes, " ++
    Text.decimal collection.report.included.length ++ " files)")

/-- Collects the files of a container and puts them aside, where something may fail, then appends them
as one record. -/
def appendSpooled (spool : Trouble) (key : Key) (collector : Collector) (host : Host)
    (schedule : Schedule) (queries : Nat) : Acting Collection := do
  let _ ← requireOpen
  let keyBytes ← liftKey key
  let collection ← releasing spool.closing do
    let collection ← collect collector host schedule queries
    raise spool.rewinding
    writeSpooled keyBytes collection.value spool.handing
    pure collection
  announce key collection
  pure collection

/-- Collects the files of a container and appends them as one record. -/
def append (key : Key) (collector : Collector) (host : Host) (schedule : Schedule := .quiet)
    (queries : Nat := 0) : Acting Collection :=
  appendSpooled {} key collector host schedule queries

/-- Stores what is held back and releases the file; closing again does nothing. -/
def close : Acting Unit := do
  let session ← get
  match session.writer.output with
  | none => pure ()
  | some output =>
      let (tree, refusal?) := Disk.close ⟨session.tree, output⟩
      set { session with tree, writer := { session.writer with output := none } }
      match refusal? with
      | none => pure ()
      | some refusal => throw (.refused refusal)

end Session

end ContainerLogs.Archive
