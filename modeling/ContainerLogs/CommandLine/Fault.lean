import ContainerLogs.Archive.Location
import ContainerLogs.Archive.Writer
import ContainerLogs.Console.Markup
import ContainerLogs.Service.Protocol
import ContainerLogs.Settings.Store
import ContainerLogs.Wire.Fault

/-!
Faults that end a command. Those that the program foresees are reported under the heading of their
category and fix the exit code; all others pass on to whoever runs the program.
-/
namespace ContainerLogs.CommandLine

inductive Fault where
  | settings (fault : Settings.StoreFault)
  | location (fault : LocationFault)
  | service (fault : ResolveFault)
  | identifier (fault : IdentifierFault)
  | writing (fault : Archive.WriteFault)
  | reading (fault : ReadFault)
  | markup (fault : Console.Markup.Fault)
  /-- A refusal that is passed on as it is. -/
  | refused (refusal : Refusal)

inductive Category where
  | configuration
  /-- An archive could not be made. -/
  | creation
  | other
  deriving DecidableEq, Repr

namespace Category

def heading : Category → String
  | configuration => "Config error:"
  | creation => "Cannot create archive:"
  | other => "Error:"

def exitCode : Category → Nat
  | configuration => 2 | creation => 5 | other => 1

end Category

namespace Fault

/-- The category of a foreseen fault. -/
def category? : Fault → Option Category
  | settings fault => if fault.isConfiguration then some .configuration else none
  | location (.home _) => none
  | location _ => some .configuration
  | service (.unsupported _) => some .other
  | service (.address _) => some .configuration
  | identifier .oversizedField => none
  | identifier _ => some .other
  | writing (.creation ..) | writing (.mode ..) | writing (.truncation ..) | writing (.header ..) =>
      some .creation
  | writing (.tornRecord ..) | writing (.closed _) => some .other
  | writing _ => none
  | reading fault => if fault.isCorrupt then some .other else none
  | markup _ | refused _ => none

def message : Fault → String
  | settings fault => fault.message
  | location fault => fault.message
  | service fault => fault.message
  | identifier fault => fault.message
  | writing fault => fault.message
  | reading fault => fault.message
  | markup fault => fault.message
  | refused refusal => refusal.message

def settingsDetail : Settings.StoreFault → String
  | .malformed _ => "not valid TOML"
  | .invalid _ faults | .invalidEnvironment faults =>
      "; ".intercalate (faults.map Settings.Fault.message)
  | _ => ""

/-- What is known beyond the message. -/
def detail : Fault → String
  | settings fault => settingsDetail fault
  | reading (.undecodableKey _) => "not valid UTF-8"
  | _ => ""

def report (fault : Fault) : String :=
  if fault.detail = "" then fault.message else fault.message ++ ": " ++ fault.detail

end Fault

end ContainerLogs.CommandLine
