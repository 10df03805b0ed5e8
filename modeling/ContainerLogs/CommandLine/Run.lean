import ContainerLogs.CommandLine.Fault
import ContainerLogs.CommandLine.Usage
import ContainerLogs.Console.Escape
import ContainerLogs.Console.Layout

/-!
A run of the program: the file tree it works on, what it printed so far, and how it ends.
-/
namespace ContainerLogs.CommandLine

/-- The machine that a command runs on. -/
structure Machine where
  host : Host
  environment : Environment := []
  home : String
  /-- The homes of other users. -/
  homeOf : String → Option String := fun _ => none
  /-- The time that log lines bear. -/
  time : String
  /-- The columns of the terminal. -/
  width : Nat

def Machine.homes (machine : Machine) : Path.Homes := ⟨machine.home, machine.homeOf⟩

def Machine.surroundings (machine : Machine) : Settings.Surroundings :=
  { process := machine.host.process, environment := machine.environment, home := machine.home }

structure Run where
  tree : FileTree
  output : String := ""
  /-- Messages and log lines. -/
  errors : String := ""
  log : LogSettings := {}

inductive Ending where
  | exit (code : Nat)
  | fault (fault : Fault)

/-- Work that may end the run; what was done before stays. -/
abbrev Running := EStateM Ending Run

/-- Where text goes. -/
inductive Stream where
  | output | errors
  deriving DecidableEq, Repr

namespace Running

def fail {α : Type} (fault : Fault) : Running α := throw (.fault fault)

def exit {α : Type} (code : Nat) : Running α := throw (.exit code)

def print (stream : Stream) (text : String) : Running Unit :=
  modify fun run =>
    match stream with
    | .output => { run with output := run.output ++ text }
    | .errors => { run with errors := run.errors ++ text }

def printLines (stream : Stream) (lines : List (List Char)) : Running Unit :=
  print stream (String.join (lines.map fun line => String.ofList line ++ "\n"))

/-- Prints text that is not known to be free of escape sequences. -/
def echo (stream : Stream) (text : String) : Running Unit :=
  print stream (String.ofList (Console.withoutEscapes text.toList))

/-- The text that markup shows. -/
def shown (markup : String) : Running (List Char) :=
  match Console.Markup.shown markup with
  | .ok text => pure text
  | .error fault => fail (.markup fault)

/-- Prints marked-up text, laid out for the terminal. -/
def say (machine : Machine) (stream : Stream) (markup : String) : Running Unit := do
  printLines stream (Console.Layout.lines machine.width (← shown markup))

def log (machine : Machine) (records : List LogRecord) : Running Unit :=
  modify fun run =>
    { run with
      errors := run.errors ++
        String.join (records.map (LogRecord.written run.log machine.time)) }

def usageCode : Nat := 2

/-- Ends the run for arguments that do not fit. -/
def refuse {α : Type} (fault : UsageFault) : Running α := do
  echo .errors ("Error: " ++ fault.message ++ "\n")
  exit usageCode

def showHelp {α : Type} (page : String) : Running α := do
  print .output page
  exit 0

/-- Sorts the arguments of a command; a wish for help comes before all other checks. -/
def given (options : List OptionForm) (order : Order) (help : String) (arguments : List String) :
    Running Given :=
  match sortArguments options order arguments with
  | .error fault => refuse (.option fault)
  | .ok given => if given.has helpOption.name then showHelp help else pure given

/-- Ends the run if operands are left over. -/
def refuseExtra : List String → Running Unit
  | [] => pure ()
  | extra => refuse (.extraArguments extra)

/-- Reports a fault under its heading. -/
def report (machine : Machine) (category : Category) (text : String) : Running Unit :=
  say machine .errors ("[red]" ++ category.heading ++ "[/red] " ++ text)

/-- Reports a foreseen fault of an action and ends the run with its exit code. -/
def reporting {α : Type} (machine : Machine) (action : Running α) : Running α := fun run =>
  match action run with
  | .error (.fault fault) run =>
      match fault.category? with
      | some category => (do report machine category fault.report; exit category.exitCode) run
      | none => .error (.fault fault) run
  | result => result

def ofExcept {ε α : Type} (fault : ε → Fault) : Except ε α → Running α
  | .ok a => pure a
  | .error e => fail (fault e)

/-- Does something to the settings file. -/
def storing {α : Type} (action : Settings.Storing α) : Running α := fun run =>
  match action run.tree with
  | .ok a tree => .ok a { run with tree }
  | .error fault tree => .error (.fault (.settings fault)) { run with tree }

def loadSettings (machine : Machine) : Running Settings :=
  storing (Settings.loadOrDefault machine.surroundings)

end Running

end ContainerLogs.CommandLine
