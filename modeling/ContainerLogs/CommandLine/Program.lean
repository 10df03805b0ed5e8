import ContainerLogs.CommandLine.Aggregate
import ContainerLogs.CommandLine.Config
import ContainerLogs.CommandLine.Dump
import ContainerLogs.CommandLine.Resolve

/-!
The program as a whole. The command is found first, then the log is set up from the settings, and
only then are the command's own arguments looked at. Commands on the settings themselves log by
default settings, so that they work while the settings file is broken.
-/
namespace ContainerLogs.CommandLine

namespace Program

/-- A command with its arguments still to be sorted. -/
structure Call where
  verbose : Bool
  command : Command
  arguments : List String

def showVersion {α : Type} : Running α :=
  Running.showHelp (programName ++ " " ++ programVersion ++ "\n")

/-- Ends a run that was asked for nothing with a page on what can be asked for. -/
def showGuide {α : Type} (page : String) : Running α := do
  Running.print .errors page
  Running.exit Running.usageCode

/-- Ends the run if help or the version is asked for, of both by what comes first. -/
def showIfAsked (page : String) (given : Given) : Running Unit :=
  match given.options.find? fun (name, _) =>
      name = helpOption.name ∨ name = versionOption.name with
  | some (name, _) => if name = helpOption.name then Running.showHelp page else showVersion
  | none => pure ()

/-- Sorts the arguments of a group of commands. -/
def group (options : List OptionForm) (page : String) (arguments : List String) :
    Running Given := do
  match sortArguments options .optionsFirst arguments with
  | .error fault => Running.refuse (.option fault)
  | .ok given => do
      showIfAsked page given
      pure given

/-- Ends the run for want of a command of that name. What looks like an option is taken for one. -/
def refuseCommand {α : Type} (options : List OptionForm) (page : String)
    (commands : List String) (arguments : List String) (name : String) : Running α := do
  let _ ← group options page arguments
  Running.refuse (.noSuchCommand name (Text.Likeness.suggestions commands name))

def call (arguments : List String) : Running Call := do
  if arguments.isEmpty then showGuide programHelp
  else do
    let given ← group programOptions programHelp arguments
    match given.operands with
    | [] => Running.refuse .missingCommand
    | name :: rest =>
        match Command.ofName? name with
        | none =>
            refuseCommand programOptions programHelp (Command.all.map (·.name)) given.operands name
        | some command => pure ⟨given.has verboseOption.name, command, rest⟩

/-- Sets up the log. -/
def configureLog (machine : Machine) (call : Call) : Running Unit := do
  let settings ← Running.reporting machine <|
    if call.command = .config then
      Running.ofExcept .settings (Settings.byDefault machine.environment)
    else Running.loadSettings machine
  let log := if call.verbose then { settings.logging with level := .debug } else settings.logging
  modify fun run => { run with log }

def config (machine : Machine) (arguments : List String) : Running Unit := do
  if arguments.isEmpty then showGuide Command.config.help
  else do
    let given ← group Command.config.options Command.config.help arguments
    match given.operands with
    | [] => Running.refuse .missingCommand
    | name :: rest =>
        match ConfigCommand.ofName? name with
        | none =>
            refuseCommand Command.config.options Command.config.help
              (ConfigCommand.all.map (·.name)) given.operands name
        | some command => do
            let given ← Running.given command.options .mixed command.help rest
            match command with
            | .display => do (← ShowOrder.ofGiven given).execute machine
            | .create => do (← InitOrder.ofGiven given).execute machine

def perform (machine : Machine) (call : Call) : Running Unit := do
  let sorted := Running.given call.command.options .mixed call.command.help call.arguments
  match call.command with
  | .config => config machine call.arguments
  | .aggregate => do
      match AggregateOrder.ofGiven (← sorted) with
      | .ok order => order.execute machine
      | .error fault => Running.refuse fault
  | .dump => do (← DumpOrder.ofGiven (← sorted)).execute machine
  | .resolve => do (← ResolveOrder.ofGiven (← sorted)).execute machine

def running (machine : Machine) (arguments : List String) : Running Unit := do
  let call ← call arguments
  configureLog machine call
  perform machine call

/-- What a run leaves behind. -/
structure Finish where
  run : Run
  ending : Ending

/-- Runs the program on a file tree. -/
def run (machine : Machine) (arguments : List String) (tree : FileTree) : Finish :=
  match running machine arguments { tree } with
  | .ok () run => ⟨run, .exit 0⟩
  | .error ending run => ⟨run, ending⟩

/-- The code a process exits with; a fault that was not foreseen counts as a failure. -/
def Finish.exitCode (finish : Finish) : Nat :=
  match finish.ending with
  | .exit code => code
  | .fault _ => 1

end Program

end ContainerLogs.CommandLine
