import ContainerLogs.Archive.Item
import ContainerLogs.Collection.Snapshot
import ContainerLogs.Identifier

/-!
Collecting the log files of one container from several log roots into the items of one record. A
file of another owner is replaced by a diagnostic; a file that cannot be opened or read is left out.
Every file found is put down in exactly one list of the report. A collection ends early only at a
root whose kind cannot be told, at an owner who is not known and at an item that cannot be written.
-/
namespace ContainerLogs

/-- Who should own the files: one user, or an answer for each file in turn, which may fail. -/
inductive ExpectedOwner where
  | fixed (name : String)
  | perFile (answer : Nat → Option String)

/-- What became of the files found, and the roots that are not there. -/
structure Report where
  included : List String := []
  mismatches : List OwnershipMismatch := []
  skipped : List String := []
  missingRoots : List String := []
  deriving DecidableEq, Repr

inductive CollectFault where
  /-- A root whose kind cannot be told. -/
  | root (refusal : Refusal)
  /-- No answer on who should own a file. -/
  | owner
  /-- A length that does not fit its field, with what was written of the item before it. -/
  | oversized (written : Bytes) (fault : Wire.OutOfRange)
  /-- A place where bytes are put aside that fails, with what was written of the item by then. -/
  | storage (written : Bytes) (refusal : Refusal)
  deriving DecidableEq, Repr

/-- What the record got of an item that was begun and not finished. -/
def CollectFault.written : CollectFault → Bytes
  | root _ | owner => []
  | oversized written _ | storage written _ => written

/-- A collection under way. -/
structure Collection extends Surroundings where
  /-- How often an owner was asked for. -/
  queries : Nat := 0
  items : List Archive.Item := []
  report : Report := {}
  journal : List LogRecord := []

abbrev Collecting := EStateM CollectFault Collection

/-- Whose names are known and which process collects. -/
structure Host where
  users : Users
  process : Process := {}

structure Collector where
  roots : List Path
  container : ContainerId
  owner : ExpectedOwner

namespace Collector

def logger : String := "logarchive.archive.collector"

/-- The directory of the container below a root. -/
def directoryIn (collector : Collector) (root : Path) : Path :=
  root.append ⟨"", [collector.container.application.text, collector.container.text]⟩

def directories (collector : Collector) : List Path := collector.roots.map collector.directoryIn

/-- Whether a directory entry is a regular file or leads to one. -/
def isListed (tree : FileTree) (path : String) (number : Nat) : Except Refusal Bool :=
  match tree.node? number with
  | some ⟨.file _, _, _⟩ => .ok true
  | some ⟨.symlink _, _, _⟩ =>
      match tree.stat path with
      | .ok node => .ok node.isFile
      | .error refusal => if refusal.errno? = some .noEntry then .ok false else .error refusal
  | _ => .ok false

/-- The names of the regular files in a directory, by code point. -/
def listFiles (tree : FileTree) (directory : Path) : Except Refusal (List String) := do
  let entries ← tree.directoryEntries directory.text
  let files ← entries.filterM fun (name, number) =>
    isListed tree (directory.text ++ "/" ++ name) number
  .ok ((files.map (·.1)).mergeSort fun a b => decide (a ≤ b))

def note (severity : Severity) (message : String) : Collecting Unit :=
  modify fun state =>
    { state with journal := state.journal ++ [{ severity, logger, message }] }

def record (change : Report → Report) : Collecting Unit :=
  modify fun state => { state with report := change state.report }

def skip (path : String) : Collecting Unit :=
  record fun report => { report with skipped := report.skipped ++ [path] }

def emit (item : Archive.Item) : Collecting Unit :=
  modify fun state => { state with items := state.items ++ [item] }

/-- Who should own the next file. -/
def askOwner (owner : ExpectedOwner) : Collecting String :=
  match owner with
  | .fixed name => pure name
  | .perFile answer => do
      let query := (← get).queries
      modify fun state => { state with queries := query + 1 }
      match answer query with
      | some name => pure name
      | none => throw .owner

/-- Takes a step in the surroundings. -/
def around {α : Type} (step : Surroundings → Surroundings × α) : Collecting α := do
  let state ← get
  let (next, a) := step state.toSurroundings
  set { state with toSurroundings := next }
  pure a

/-- Whether a root is a directory. -/
def examineRoot (schedule : Schedule) (root : Path) (around : Surroundings) :
    Surroundings × Except Refusal Bool :=
  let around := around.await schedule
  (around, around.tree.isDirectory root.text)

/-- Lists a container directory; changes that wait for the first listing are made after it. -/
def list (schedule : Schedule) (directory : Path) (around : Surroundings) :
    Surroundings × Except Refusal (List String) :=
  let around := around.await schedule
  match listFiles around.tree directory with
  | .error refusal => (around, .error refusal)
  | .ok names =>
      match around.afterListing schedule with
      | (around, none) => (around, .ok names)
      | (around, some refusal) => (around, .error refusal)

/-- What becomes of a file that was listed. -/
inductive Fate where
  | unopened (refusal : Refusal)
  | mismatch (found : OwnershipMismatch)
  | unread (refusal : Refusal)
  | included (content : Bytes)
  deriving DecidableEq, Repr

/-- Opens a listed file and takes in its content if it belongs to the expected owner. -/
def visit (host : Host) (schedule : Schedule) (path : Path) (expected : String)
    (around : Surroundings) : Surroundings × Fate :=
  let around := around.await schedule
  match Opening.openRegular around.tree host.users path.text with
  | .error refusal => (around, .unopened refusal)
  | .ok (number, actual) =>
      let around := around.note ⟨number, actual, expected⟩
      match Opening.judge path.text expected number actual with
      | .mismatch found => (around, .mismatch found)
      | .granted number =>
          match Snapshot.take schedule path.name number around with
          | (around, .error refusal) => (around, .unread refusal)
          | (around, .ok content) => (around, .included content)

/-- The fault that handing over an item ends in, after so many of its bytes or at a length that does
not fit. -/
def handing? (limit : Option (Errno × Nat)) (item : Archive.Item) : Option CollectFault :=
  let (written, unfit?) := item.written
  match limit with
  | none => unfit?.map (.oversized written)
  | some (errno, given) =>
      if given < written.length then some (.storage (written.take given) (.bare errno))
      else unfit?.map (.oversized written)

/-- The fault that handing over a copied file ends in. The copy is closed in any case, and if that
fails, no other fault is heard of. -/
def handingCopy? (trouble : Trouble) (item : Archive.Item) : Option CollectFault :=
  let fault? := match trouble.rewinding with
    | none => handing? trouble.handing item
    | some errno => some (.storage [] (.bare errno))
  match trouble.closing with
  | none => fault?
  | some errno =>
      let written := match fault? with
        | none => item.bytes
        | some fault => fault.written
      some (.storage written (.bare errno))

/-- Goes on unless there is a fault. -/
def raise (fault? : Option CollectFault) : Collecting Unit := fault?.forM throw

/-- Puts down what became of a file. -/
def putDown (path : Path) (trouble : Trouble) : Fate → Collecting Unit
  | .unopened refusal => do
      note .warning ("Cannot open log file " ++ path.text ++ ": " ++ refusal.message)
      skip path.text
  | .mismatch found => do
      modify fun state =>
        { state with journal := state.journal ++ (Opening.mismatch found).records }
      raise (handing? trouble.handing (.diagnostic found.message))
      emit (.diagnostic found.message)
      record fun report => { report with mismatches := report.mismatches ++ [found] }
  | .unread refusal => do
      note .warning ("Error reading log file " ++ path.text ++ ": " ++ refusal.message)
      raise (trouble.closing.map fun errno => .storage [] (.bare errno))
      skip path.text
  | .included content => do
      raise (handingCopy? trouble (.entry path.name content))
      emit (.entry path.name content)
      record fun report => { report with included := report.included ++ [path.text] }

def collectFile (host : Host) (schedule : Schedule) (owner : ExpectedOwner) (path : Path) :
    Collecting Unit := do
  let expected ← askOwner owner
  let fate ← around (visit host schedule path expected)
  putDown path (schedule.trouble (← get).requests) fate

/-- Refusals that say that a container has no logs below a root. -/
def meansNoLogs (refusal : Refusal) : Bool :=
  refusal.errno? = some .noEntry ∨ refusal.errno? = some .notDirectory

def collectRoot (host : Host) (schedule : Schedule) (collector : Collector) (root : Path) :
    Collecting Unit := do
  match ← around (examineRoot schedule root) with
  | .error refusal => throw (.root refusal)
  | .ok false => do
      note .warning ("Log root " ++ root.text ++ " does not exist; skipping")
      record fun report => { report with missingRoots := report.missingRoots ++ [root.text] }
  | .ok true => do
      let directory := collector.directoryIn root
      match ← around (list schedule directory) with
      | .error refusal =>
          if meansNoLogs refusal then
            note .debug ("No logs for " ++ collector.container.text ++ " under " ++ root.text)
          else do
            note .warning
              ("Cannot list log directory " ++ directory.text ++ ": " ++ refusal.message)
            skip directory.text
      | .ok names =>
          names.forM fun name =>
            collectFile host schedule collector.owner (directory.append ⟨"", [name]⟩)

def summary (container : ContainerId) (report : Report) : String :=
  "Collected " ++ container.text ++ ": " ++ Text.decimal report.included.length ++ " included, " ++
    Text.decimal report.mismatches.length ++ " ownership mismatches, " ++
    Text.decimal report.skipped.length ++ " skipped"

/-- Collects the files of a container root by root. -/
def collect (host : Host) (schedule : Schedule) (collector : Collector) : Collecting Unit := do
  collector.roots.forM (collectRoot host schedule collector)
  note .debug (summary collector.container (← get).report)

/-- Collects from a tree, after a number of questions for owners. -/
def produce (collector : Collector) (host : Host) (schedule : Schedule) (tree : FileTree)
    (queries : Nat := 0) : EStateM.Result CollectFault Collection Unit :=
  collect host schedule collector { tree := tree, queries := queries }

end Collector

/-- The value of the record that a collection makes. -/
def Collection.value (collection : Collection) : Bytes :=
  Archive.Item.bytesOfAll collection.items

end ContainerLogs
