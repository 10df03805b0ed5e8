import ContainerLogs.Archive.Output
import ContainerLogs.Settings.Check
import ContainerLogs.Settings.Environment
import ContainerLogs.Toml.Document
import ContainerLogs.Toml.Printer

/-!
Settings in a file. Loading reads the file, lays the environment over it and checks the result.
Saving writes a temporary file beside the old one and then puts it in its place, readable by its
owner only.
-/
namespace ContainerLogs.Settings

inductive StoreFault where
  /-- There is no such file. -/
  | notFound (path : String)
  | unreadable (path : String) (refusal : Refusal)
  | malformed (path : String)
  | notText
  | oversizedNumber
  | nestedTooDeep
  /-- The environment sets an entry of a section that is not a table. -/
  | notSection
  | invalid (path : String) (faults : List Fault)
  | invalidEnvironment (faults : List Fault)
  /-- A value without a written form. -/
  | unwritable
  | notWritten (path : String) (refusal : Refusal)
  /-- A place for the file that has no name. -/
  | nameless (path : String)
  /-- A refusal that is passed on as it is. -/
  | refused (refusal : Refusal)
  deriving DecidableEq, Repr

namespace StoreFault

/-- Whether the fault is one of the configuration, as against one of the system or of the data. -/
def isConfiguration : StoreFault → Bool
  | notFound _ | unreadable .. | malformed _ | invalid .. | invalidEnvironment _ | notWritten .. =>
      true
  | _ => false

/-- The message of a fault; details of malformed or invalid settings come after it. -/
def message : StoreFault → String
  | notFound path =>
      "logarchive is not configured. Run 'logarchive config init' first.\n" ++
        "(Config file not found: " ++ path ++ ")"
  | unreadable path refusal => "Cannot read config file " ++ path ++ ": " ++ refusal.message
  | malformed path => "Cannot read config file " ++ path
  | notText => "The config file is not valid UTF-8"
  | oversizedNumber => "The config file holds a number with too many digits"
  | nestedTooDeep => "The config file nests values too deep"
  | notSection => "A section of the config file is not a table"
  | invalid path _ => "Invalid config at " ++ path
  | invalidEnvironment _ => "Invalid LOGARCHIVE_* environment settings"
  | unwritable => "A value cannot be written as TOML"
  | notWritten path refusal => "Cannot write config to " ++ path ++ ": " ++ refusal.message
  | nameless path => Text.quoted path ++ " has an empty name"
  | refused refusal => refusal.message

end StoreFault

/-- Where settings are looked for, and what goes wrong with a file that is written. -/
structure Surroundings where
  process : Process := {}
  environment : Environment := []
  home : String
  /-- How many bytes can be written, if there is a limit. -/
  room : Option Nat := none
  closeFails : Bool := false

/-- Requests to the file tree; what was done before a fault stays. -/
abbrev Storing := EStateM StoreFault FileTree

def request {α : Type} (fault : Refusal → StoreFault) (attempt : FileTree → Except Refusal α) :
    Storing α := fun tree =>
  match attempt tree with
  | .ok a => .ok a tree
  | .error refusal => .error (fault refusal) tree

def act (fault : Refusal → StoreFault) (attempt : FileTree → Except Refusal FileTree) :
    Storing Unit := fun tree =>
  match attempt tree with
  | .ok tree => .ok () tree
  | .error refusal => .error (fault refusal) tree

def makeDirectories (process : Process) (path : Path) (mode : Nat) : Storing Unit := fun tree =>
  match tree.makeDirectories process path mode with
  | (tree, none) => .ok () tree
  | (tree, some refusal) => .error (.refused refusal) tree

def directoryMode : Nat := 0o700
def fileMode : Nat := 0o600

/-- Names the settings file in place of the one in the home directory. -/
def pathVariable : String := "LOGARCHIVE_CONFIG"

/-- The directory of a user's own settings file. -/
def ownDirectory (surroundings : Surroundings) : Path :=
  (Path.ofText (Path.homeText surroundings.home)).child ".logarchive"

def ownPath (surroundings : Surroundings) : Path :=
  (ownDirectory surroundings).child "config.toml"

/-- The file that the environment names, or the user's own, whose directory is made if need be. -/
def defaultPath (surroundings : Surroundings) : Storing Path :=
  match surroundings.environment.get? pathVariable with
  | some path => pure (Path.ofText path)
  | none => do
      makeDirectories surroundings.process (ownDirectory surroundings) directoryMode
      pure (ownPath surroundings)

def pathOr (surroundings : Surroundings) (path : Option Path) : Storing Path :=
  match path with
  | some path => pure path
  | none => defaultPath surroundings

/-- The settings that bytes hold, before the environment is laid over them. -/
def parse (path : String) (content : Bytes) : Except StoreFault Table :=
  match Text.Utf8.decode? content with
  | none => .error .notText
  | some text =>
      match Toml.read text with
      | .ok table => .ok table
      | .error .malformed => .error (.malformed path)
      | .error .oversizedNumber => .error .oversizedNumber
      | .error .nestedTooDeep => .error .nestedTooDeep

/-- Checks settings with the environment laid over them. -/
def settle (environment : Environment) (invalid : List Fault → StoreFault) (table : Table) :
    Except StoreFault Settings :=
  match overlay environment table with
  | none => .error .notSection
  | some table =>
      match check (.table table) with
      | .ok settings => .ok settings
      | .error faults => .error (invalid faults)

/-- A null in the path of a file counts against the request itself. -/
def readingFault (path : String) (refusal : Refusal) : StoreFault :=
  if refusal = .nullInPath then .refused refusal else .unreadable path refusal

def writingFault (path : String) (refusal : Refusal) : StoreFault :=
  if refusal = .nullInPath then .refused refusal else .notWritten path refusal

def load (surroundings : Surroundings) (path : Option Path) : Storing Settings := do
  let path ← pathOr surroundings path
  if ← request .refused (·.pathExists path.text) then
    let content ← request (readingFault path.text) (·.contentAt path.text)
    match parse path.text content with
    | .error fault => throw fault
    | .ok table =>
        match settle surroundings.environment (.invalid path.text) table with
        | .ok settings => pure settings
        | .error fault => throw fault
  else throw (.notFound path.text)

/-- The defaults with the environment laid over them. -/
def byDefault (environment : Environment) : Except StoreFault Settings :=
  settle environment .invalidEnvironment []

/-- The settings of the file, or the defaults if there is no file. -/
def loadOrDefault (surroundings : Surroundings) : Storing Settings := fun tree =>
  match load surroundings none tree with
  | .error (.notFound _) tree =>
      match byDefault surroundings.environment with
      | .ok settings => .ok settings tree
      | .error fault => .error fault tree
  | result => result

/-- Empties an open file, writes bytes to it and closes it. -/
def fill (surroundings : Surroundings) (fault : Refusal → StoreFault) (file : Nat) (bytes : Bytes) :
    Storing Unit := fun tree =>
  let output : Archive.Output :=
    { file, room := surroundings.room, closeFails := surroundings.closeFails }
  match Archive.Disk.writeOut bytes ⟨tree.setContent file [], output⟩ with
  | (tree, none) => .ok () tree
  | (tree, some refusal) => .error (fault refusal) tree

/-- Opens the temporary file. To open a pipe for writing is to wait for a reader; there is none, so
that ends only when the process is interrupted. -/
def openTemporary (surroundings : Surroundings) (fault : Refusal → StoreFault) (temporary : Path) :
    Storing Nat := fun tree =>
  match tree.openForWriting surroundings.process temporary.text 0o666 with
  | .ok (tree, file) =>
      if (tree.node? file).any Node.isFile then .ok file tree
      else .error (.refused (.onPath .interrupted temporary.text)) tree
  | .error refusal => .error (fault refusal) tree

/-- Writes the temporary file and puts it in the place of the old one. -/
def replaceFile (surroundings : Surroundings) (temporary path : Path) (written : Toml.Written) :
    Storing Unit := do
  let fault := writingFault path.text
  let file ← openTemporary surroundings fault temporary
  fill surroundings fault file (Text.Utf8.encode written.text)
  if written.isComplete then act fault (·.rename temporary.text path.text)
  else throw .unwritable

/-- Saves settings. When the file cannot be written, the temporary file is removed. -/
def save (surroundings : Surroundings) (table : Table) (path : Option Path) : Storing Path := do
  let path ← pathOr surroundings path
  makeDirectories surroundings.process path.parent directoryMode
  match path.withExtension? ".tmp" with
  | none => throw (.nameless path.text)
  | some temporary => do
      try replaceFile surroundings temporary path (Toml.write table)
      catch
        | .notWritten path refusal => do
            act .refused (·.removeFileIfPresent temporary.text)
            throw (.notWritten path refusal)
        | fault => throw fault
      act .refused (·.changeMode path.text fileMode)
      pure path

end ContainerLogs.Settings
