import ContainerLogs.CommandLine.Option
import ContainerLogs.Service.Protocol

/-!
The commands of the program, the options they know, and what is said of arguments that do not fit.
-/
namespace ContainerLogs.CommandLine

def programName : String := "logarchive"
def programVersion : String := "0.1.0"

/-- The commands and groups of commands, and those of the group that deals with settings. -/
inductive Command where
  | aggregate | dump | resolve | config
  deriving DecidableEq, Repr

inductive ConfigCommand where
  | display | create
  deriving DecidableEq, Repr

namespace Command

def name : Command → String
  | aggregate => "aggregate" | dump => "dump" | resolve => "resolve" | config => "config"

def all : List Command := [aggregate, dump, resolve, config]

def ofName? (text : String) : Option Command := all.find? (·.name = text)

end Command

namespace ConfigCommand

def name : ConfigCommand → String
  | display => "show" | create => "init"

def all : List ConfigCommand := [display, create]

def ofName? (text : String) : Option ConfigCommand := all.find? (·.name = text)

end ConfigCommand

/-! The options that each of them knows. -/

def helpOption : OptionForm := { name := "--help", letter := some 'h' }
def versionOption : OptionForm := { name := "--version", letter := some 'V' }
def verboseOption : OptionForm := { name := "--verbose", letter := some 'v' }
def rootOption : OptionForm := { name := "--root", takesValue := true }
def destinationOption : OptionForm := { name := "--dest", takesValue := true }
def ownerOption : OptionForm := { name := "--owner", takesValue := true }
def nodeOption : OptionForm := { name := "--node", takesValue := true }
def containerOption : OptionForm := { name := "--container", takesValue := true }
def archiveDirOption : OptionForm := { name := "--archive-dir", takesValue := true }
def jsonOption : OptionForm := { name := "--json" }
def forceOption : OptionForm := { name := "--force" }

def programOptions : List OptionForm := [versionOption, verboseOption, helpOption]

def Command.options : Command → List OptionForm
  | aggregate =>
      [rootOption, destinationOption, ownerOption, nodeOption, jsonOption, helpOption]
  | dump => [containerOption, helpOption]
  | resolve | config => [helpOption]

def ConfigCommand.options : ConfigCommand → List OptionForm
  | display => [jsonOption, helpOption]
  | create => [rootOption, archiveDirOption, nodeOption, forceOption, helpOption]

/-! Operands as they are called in messages. -/

def containersOperand : String := "CONTAINERS..."
def archiveOperand : String := "ARCHIVE"

def protocolNames : List String := ServiceProtocol.all.map (·.name)

def protocolOperand : String := "\x7b" ++ "|".intercalate protocolNames ++ "\x7d"

inductive UsageFault where
  | option (fault : OptionFault)
  | missingCommand
  | noSuchCommand (name : String) (suggestions : List String)
  | missingContainers
  | missingArchive
  | missingProtocol
  | notProtocol (text : String)
  | archiveIsDirectory (path : String)
  | archiveNotReadable (path : String)
  | extraArguments (arguments : List String)
  | noLogRoots
  /-- Containers of several applications, without a place for their archive. -/
  | severalApplications
  deriving DecidableEq, Repr

namespace UsageFault

def missing (operand : String) : String := "Missing argument '" ++ operand ++ "'."

def invalid (operand reason : String) : String :=
  "Invalid value for '" ++ operand ++ "': " ++ reason

def message : UsageFault → String
  | option fault => fault.message
  | missingCommand => "Missing command."
  | noSuchCommand name suggestions =>
      "No such command " ++ Text.quoted name ++ "." ++ suggestionNote suggestions
  | missingContainers => missing containersOperand
  | missingArchive => missing archiveOperand
  | missingProtocol =>
      missing protocolOperand ++ " Choose from:\n\t" ++ ",\n\t".intercalate protocolNames
  | notProtocol text =>
      invalid protocolOperand (Text.quoted text ++ " is not one of " ++
        ", ".intercalate (protocolNames.map Text.quoted) ++ ".")
  | archiveIsDirectory path =>
      invalid archiveOperand ("File " ++ Text.quoted path ++ " is a directory.")
  | archiveNotReadable path =>
      invalid archiveOperand ("File " ++ Text.quoted path ++ " is not readable.")
  | extraArguments [argument] => "Got unexpected extra argument (" ++ argument ++ ")"
  | extraArguments arguments =>
      "Got unexpected extra arguments (" ++ " ".intercalate arguments ++ ")"
  | noLogRoots => "No log roots: pass --root or set aggregation.log_roots"
  | severalApplications =>
      "Containers belong to different applications; pass --dest explicitly"

end UsageFault

/-! Help pages: how a command is called and the options that it knows. -/

def OptionForm.synopsis (form : OptionForm) : String :=
  "  " ++ (form.letter.elim "" fun letter => String.ofList ['-', letter, ',', ' ']) ++ form.name ++
    (if form.takesValue then " TEXT" else "") ++ "\n"

def helpPage (call purpose : String) (commands : List String) (options : List OptionForm) :
    String :=
  "Usage: " ++ programName ++ " " ++ call ++ "\n\n  " ++ purpose ++ "\n\nOptions:\n" ++
    String.join (options.map OptionForm.synopsis) ++
    (if commands.isEmpty then ""
      else "\nCommands:\n" ++ String.join (commands.map fun name => "  " ++ name ++ "\n"))

def programHelp : String :=
  helpPage "[OPTIONS] COMMAND [ARGS]..." "Secure aggregated container log archives."
    (Command.all.map (·.name)) programOptions

def Command.help : Command → String
  | aggregate =>
      helpPage "aggregate [OPTIONS] CONTAINERS..."
        "Collect the logs of CONTAINERS into one archive." [] aggregate.options
  | dump =>
      helpPage "dump [OPTIONS] ARCHIVE" "Render ARCHIVE as readable text." [] dump.options
  | resolve =>
      helpPage ("resolve [OPTIONS] " ++ protocolOperand)
        "Show the configured address of the managing service for a protocol." [] resolve.options
  | config =>
      helpPage "config [OPTIONS] COMMAND [ARGS]..." "View and create the configuration."
        (ConfigCommand.all.map (·.name)) config.options

def ConfigCommand.help : ConfigCommand → String
  | display =>
      helpPage "config show [OPTIONS]" "Display the current configuration." [] display.options
  | create => helpPage "config init [OPTIONS]" "Write a starter config file." [] create.options

end ContainerLogs.CommandLine
