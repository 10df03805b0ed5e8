import ContainerLogs.Json.Document
import ContainerLogs.Log.Severity
import ContainerLogs.Log.Template

/-!
Log records and the lines they are written as: plain text, or one JSON object per line. Records
below the threshold are not written, and neither are events whose arguments do not fit their
template.
-/
namespace ContainerLogs

inductive LogFormat where
  | text | json
  deriving DecidableEq, Repr

namespace LogFormat

def name : LogFormat → String
  | text => "text"
  | json => "json"

def ofName? (name : String) : Option LogFormat :=
  if name = "text" then some text else if name = "json" then some json else none

end LogFormat

structure LogSettings where
  level : Severity := .info
  format : LogFormat := .text
  deriving DecidableEq, Repr

/-- An error that a record reports beside its message. -/
structure Incident where
  kind : String
  detail : String
  deriving DecidableEq, Repr

def Incident.text (incident : Incident) : String :=
  if incident.detail = "" then incident.kind else incident.kind ++ ": " ++ incident.detail

structure LogRecord where
  severity : Severity
  logger : String
  message : String
  incident : Option Incident := none
  deriving DecidableEq, Repr

namespace LogRecord

/-- The logger of a record that names none. -/
def rootLogger : String := "root"

def loggerName (record : LogRecord) : String :=
  if record.logger = "" then rootLogger else record.logger

def textLine (time : String) (record : LogRecord) : String :=
  let line := time ++ " " ++ String.ofList (Text.padRight 7 ' ' record.severity.name.toList) ++
    " " ++ record.loggerName ++ ": " ++ record.message
  match record.incident with
  | none => line
  | some incident =>
      if line.toList.getLast? = some '\n' then line ++ incident.text
      else line ++ "\n" ++ incident.text

/-- The fields of a line in JSON: an exception is named only where there is one. -/
def entry (time level logger message : String) (exception : Option String) : Json.Document :=
  .object ([("timestamp", .text time), ("level", .text level), ("logger", .text logger),
    ("message", .text message)] ++ match exception with
    | none => []
    | some exception => [("exception", .text exception)])

def document (time : String) (record : LogRecord) : Json.Document :=
  entry time record.severity.name record.loggerName record.message
    (record.incident.map Incident.text)

def line (format : LogFormat) (time : String) (record : LogRecord) : String :=
  match format with
  | .text => record.textLine time
  | .json => (record.document time).oneLine

/-- What a record adds to the log. -/
def written (settings : LogSettings) (time : String) (record : LogRecord) : String :=
  if settings.level.rank ≤ record.severity.rank then record.line settings.format time ++ "\n"
  else ""

end LogRecord

/-- A record to be made of a template and the arguments for its places. -/
structure LogEvent where
  severity : Severity
  logger : String
  template : String
  arguments : List Settings.Value := []
  incident : Option Incident := none

namespace LogEvent

/-- The message, if the arguments fit the template. Without arguments the template stands as it
is. -/
def message? (event : LogEvent) : Option String :=
  if event.arguments.isEmpty then some event.template
  else
    ((LogArguments.ofList event.arguments).fill? event.template.toList).map String.ofList

def record? (event : LogEvent) : Option LogRecord :=
  event.message?.map fun message =>
    { severity := event.severity, logger := event.logger, message, incident := event.incident }

/-- What an event adds to a log: nothing before the log is set up or if its arguments do not fit. -/
def written (settings : Option LogSettings) (time : String) (event : LogEvent) : String :=
  match settings, event.record? with
  | some settings, some record => record.written settings time
  | _, _ => ""

end LogEvent

end ContainerLogs
