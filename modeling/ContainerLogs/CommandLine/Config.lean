import ContainerLogs.CommandLine.Run

/-!
Showing the settings in effect, and writing a first settings file.
-/
namespace ContainerLogs.CommandLine

structure ShowOrder where
  asJson : Bool := false
  deriving DecidableEq, Repr

structure InitOrder where
  roots : List String := []
  archiveDir : String := ""
  node : String := ""
  /-- Whether a file that is there may be overwritten. -/
  force : Bool := false
  deriving DecidableEq, Repr

/-- Whether a file is there; a refusal passes on. -/
def Running.pathExists (path : Path) : Running Bool := do
  Running.ofExcept .refused ((← get).tree.pathExists path.text)

namespace ShowOrder

def ofGiven (given : Given) : Running ShowOrder := do
  Running.refuseExtra given.operands
  pure { asJson := given.has jsonOption.name }

def valueDocument : Settings.Value → Json.Document
  | .list items => .list (items.map fun item => .text item.plain)
  | value => .text value.plain

def document (settings : Settings) (path : Path) : Json.Document :=
  .object ((settings.sections.map fun (name, table) =>
    (name, .object (table.map fun (key, value) => (key, valueDocument value)))) ++
      [("_config_path", .text path.text)])

def sayTable (machine : Machine) (name : String) (table : Settings.Table) : Running Unit := do
  Running.say machine .output ("  [cyan]\\[" ++ name ++ "][/cyan]")
  table.forM fun (key, value) =>
    Running.say machine .output ("    " ++ key ++ " = " ++ value.shown)

def saySettings (machine : Machine) (settings : Settings) (source : String) : Running Unit := do
  Running.say machine .output
    ("[bold]logarchive configuration[/bold]  (" ++ source ++ ")\n")
  settings.sections.forM fun (name, table) => sayTable machine name table
  Running.print .output "\n"

def execute (order : ShowOrder) (machine : Machine) : Running Unit := do
  let path ← Running.storing (Settings.defaultPath machine.surroundings)
  let settings ← Running.reporting machine (Running.loadSettings machine)
  if order.asJson then
    Running.print .output ((document settings path).indented ++ "\n")
  else
    let present ← Running.pathExists path
    saySettings machine settings (if present then path.text else "defaults")

end ShowOrder

namespace InitOrder

def ofGiven (given : Given) : Running InitOrder := do
  Running.refuseExtra given.operands
  pure {
    roots := given.values rootOption.name
    archiveDir := given.value archiveDirOption.name
    node := given.value nodeOption.name
    force := given.has forceOption.name }

/-- The settings that an order asks for, still to be checked. -/
def value (order : InitOrder) : Settings.Value :=
  .table [("aggregation", .table [("log_roots", .list (order.roots.map .text)),
    ("archive_dir", .text order.archiveDir), ("node_id", .text order.node)])]

def refusalCode : Nat := 2

def refuseExisting (machine : Machine) (path : Path) : Running Unit := do
  Running.say machine .output ("[red]Config already exists:[/red] " ++ path.text)
  Running.say machine .output "Pass --force to overwrite it."
  Running.exit refusalCode

def checked (order : InitOrder) (machine : Machine) : Running Settings := do
  match Settings.check order.value with
  | .ok settings => pure settings
  | .error faults => do
      Running.say machine .output ("[red]Invalid settings:[/red] " ++
        "; ".intercalate (faults.map Settings.Fault.message))
      Running.exit refusalCode

def execute (order : InitOrder) (machine : Machine) : Running Unit := do
  let path ← Running.storing (Settings.defaultPath machine.surroundings)
  if (← Running.pathExists path) ∧ ¬ order.force then refuseExisting machine path
  let settings ← order.checked machine
  let written ← Running.reporting machine
    (Running.storing (Settings.save machine.surroundings settings.table (some path)))
  Running.say machine .output ("[green]Config written:[/green] " ++ written.text)

end InitOrder

end ContainerLogs.CommandLine
