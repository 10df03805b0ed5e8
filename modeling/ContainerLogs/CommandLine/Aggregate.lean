import ContainerLogs.CommandLine.Run
import ContainerLogs.Console.Table

/-!
Collecting the logs of containers into one archive. Everything that can be told from the arguments
and the settings is checked before the archive is opened.
-/
namespace ContainerLogs.CommandLine

structure AggregateOrder where
  containers : List String
  roots : List String := []
  /-- The place of the archive; empty for the one that the settings give. -/
  destination : String := ""
  /-- The expected owner; empty for the user of the process. -/
  owner : String := ""
  node : String := ""
  asJson : Bool := false
  deriving DecidableEq, Repr

/-- What became of the files of one container. -/
structure Tally where
  container : String
  included : Nat
  mismatches : Nat
  skipped : Nat
  deriving DecidableEq, Repr

namespace Tally

def ofReport (container : ContainerId) (report : Report) : Tally :=
  ⟨container.text, report.included.length, report.mismatches.length, report.skipped.length⟩

def document (tally : Tally) : Json.Document :=
  .object [("container", .text tally.container), ("included", .number tally.included),
    ("ownership_mismatches", .number tally.mismatches), ("skipped", .number tally.skipped)]

def row (tally : Tally) : List String :=
  [tally.container, Text.decimal tally.included, Text.decimal tally.mismatches,
    Text.decimal tally.skipped]

def columns : List Console.Column :=
  [{ heading := "Container" }, { heading := "Files", alignment := .right },
    { heading := "Owner mismatches", alignment := .right },
    { heading := "Skipped", alignment := .right }]

end Tally

namespace AggregateOrder

def ofGiven (given : Given) : Except UsageFault AggregateOrder :=
  match given.operands with
  | [] => .error .missingContainers
  | containers => .ok {
      containers
      roots := given.values rootOption.name
      destination := given.value destinationOption.name
      owner := given.value ownerOption.name
      node := given.value nodeOption.name
      asJson := given.has jsonOption.name }

/-- The owner that files should have. -/
def expectedOwner (order : AggregateOrder) (host : Host) (user : Nat) : String :=
  if order.owner = "" then host.users.nameOf user else order.owner

/-- Where the archive goes. -/
def archivePath (order : AggregateOrder) (machine : Machine) (settings : Settings)
    (owner : String) (containers : List ContainerId) : Running Path :=
  if order.destination ≠ "" then pure (Path.ofText order.destination)
  else match (containers.map (·.application.text)).eraseDups with
    | [application] =>
        Running.ofExcept .location
          (settings.aggregation.archivePath machine.homes owner application order.node)
    | _ => Running.refuse .severalApplications

/-- What an order comes down to once it is checked. -/
structure Plan where
  containers : List ContainerId
  owner : String
  roots : List Path
  archive : Path

/-- Checks an order, without touching the file system. -/
def plan (order : AggregateOrder) (machine : Machine) (settings : Settings) : Running Plan := do
  let containers ← order.containers.mapM fun text =>
    Running.ofExcept .identifier (ContainerId.parse text)
  let roots := if order.roots.isEmpty then settings.aggregation.logRoots else order.roots
  if roots.isEmpty then Running.refuse .noLogRoots
  else
    let owner := order.expectedOwner machine.host (← get).tree.user
    let archive ← order.archivePath machine settings owner containers
    pure ⟨containers, owner, roots.map Path.ofText, archive⟩

end AggregateOrder

namespace AggregateOrder.Plan

/-- Appends a record for one container. -/
def appendContainer (plan : Plan) (host : Host) (container : ContainerId) :
    Archive.Session.Acting Tally := do
  let collector : Collector := ⟨plan.roots, container, .fixed plan.owner⟩
  let collection ← Archive.Session.append (.ofContainer container) collector host
  pure (.ofReport container collection.report)

/-- Appends the records and closes the archive, also after a failure. -/
def fill (plan : Plan) (host : Host) : Archive.Session.Acting (List Tally) := do
  let tallies ← tryCatch (plan.containers.mapM (plan.appendContainer host)) fun fault => do
    Archive.Session.close
    throw fault
  Archive.Session.close
  pure tallies

/-- Opens the archive. -/
def create (plan : Plan) (machine : Machine) : Running Archive.Writer := fun run =>
  match Archive.Session.start machine.host.process {} plan.archive plan.owner ⟨run.tree, []⟩ with
  | .ok writer trace =>
      (do Running.log machine trace.journal; pure writer) { run with tree := trace.tree }
  | .error fault trace =>
      (do Running.log machine trace.journal; Running.fail (.writing fault))
        { run with tree := trace.tree }

/-- Writes the archive. -/
def write (plan : Plan) (machine : Machine) : Running (List Tally) := do
  let writer ← plan.create machine
  fun run =>
    match plan.fill machine.host ⟨run.tree, writer, []⟩ with
    | .ok tallies session =>
        (do Running.log machine session.journal; pure tallies) { run with tree := session.tree }
    | .error fault session =>
        (do Running.log machine session.journal; Running.fail (.writing fault))
          { run with tree := session.tree }

end AggregateOrder.Plan

namespace AggregateOrder

def document (archive : Path) (tallies : List Tally) : Json.Document :=
  .object [("archive", .text archive.text), ("containers", .list (tallies.map Tally.document))]

def mismatchNote : String :=
  "[yellow]Some files were skipped after failing ownership checks.[/yellow]"

def printTable (machine : Machine) (archive : Path) (tallies : List Tally) : Running Unit := do
  let title ← Running.shown ("Archive " ++ archive.text)
  let table : Console.Table := ⟨title, Tally.columns, tallies.map Tally.row⟩
  Running.printLines .output table.lines
  if tallies.any (·.mismatches ≠ 0) then Running.say machine .output mismatchNote

def execute (order : AggregateOrder) (machine : Machine) : Running Unit := do
  let (archive, tallies) ← Running.reporting machine do
    let settings ← Running.loadSettings machine
    let plan ← order.plan machine settings
    let tallies ← plan.write machine
    pure (plan.archive, tallies)
  if order.asJson then Running.print .output ((document archive tallies).indented ++ "\n")
  else printTable machine archive tallies

end AggregateOrder

end ContainerLogs.CommandLine
