import ContainerLogs.Archive.Dump
import ContainerLogs.CommandLine.Run

/-!
Printing an archive as readable text, optionally one container of it only.
-/
namespace ContainerLogs.CommandLine

structure DumpOrder where
  archive : String
  container : Option String := none
  deriving DecidableEq, Repr

namespace DumpOrder

/-- Refuses a directory and what may not be read; whether there is an archive at all shows when it
is opened. -/
def checkArchive (archive : String) : Running Unit := do
  let tree := (← get).tree
  match tree.stat archive with
  | .ok node =>
      if node.isDirectory then Running.refuse (.archiveIsDirectory archive)
      else if ¬ node.permits tree.user .read then Running.refuse (.archiveNotReadable archive)
  | .error .nullInPath => Running.fail (.refused .nullInPath)
  | .error _ => pure ()

def ofGiven (given : Given) : Running DumpOrder := do
  match given.operands with
  | [] => Running.refuse .missingArchive
  | archive :: extra => do
      checkArchive archive
      Running.refuseExtra extra
      pure { archive, container := given.value? containerOption.name }

def openedRecord (reader : Archive.Reader) : LogRecord where
  severity := .debug
  logger := "logarchive.archive.reader"
  message := "Opened archive " ++ reader.path ++ " (format " ++
    reader.version.elim "None" Text.decimal ++ ", owner " ++ reader.owner.getD "None" ++ ")"

def renderedRecord (reader : Archive.Reader) (count : Nat) : LogRecord where
  severity := .debug
  logger := "logarchive.archive.renderer"
  message := "Rendered " ++ Text.decimal count ++ " record(s) from " ++ reader.path

def failureCode : Nat := 1

def openArchive (machine : Machine) (path : Path) : Running Archive.Reader := do
  match (← get).tree.contentAt path.text with
  | .error .nullInPath => Running.fail (.refused .nullInPath)
  | .error refusal => do
      Running.say machine .errors ("[red]Cannot open archive:[/red] " ++ refusal.message)
      Running.exit failureCode
  | .ok bytes => do
      let reader ← Running.ofExcept .reading (Archive.Reader.ofBytes path.text bytes)
      Running.log machine [openedRecord reader]
      pure reader

/-- Prints the records that are wanted; what comes before a fault is printed too. -/
def printRecords (order : DumpOrder) (machine : Machine) : Running Nat := do
  let reader ← openArchive machine (Path.ofText order.archive)
  let dump := reader.dump order.container
  Running.print .output dump.out
  match dump.fault with
  | some fault => Running.fail (.reading fault)
  | none => do
      Running.log machine [renderedRecord reader dump.count]
      pure dump.count

def execute (order : DumpOrder) (machine : Machine) : Running Unit := do
  let count ← Running.reporting machine (order.printRecords machine)
  match order.container with
  | some container =>
      if count = 0 then do
        Running.say machine .errors
          ("[yellow]No logs for " ++ container ++ " in " ++ order.archive ++ "[/yellow]")
        Running.exit failureCode
  | none => pure ()

end DumpOrder

end ContainerLogs.CommandLine
