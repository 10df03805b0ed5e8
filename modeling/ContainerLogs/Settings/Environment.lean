import ContainerLogs.Settings.Basic

/-!
Settings from the environment, which come before those of the file. A variable that is empty counts
as not set.
-/
namespace ContainerLogs

/-- Environment variables by name. -/
abbrev Environment := List (String × String)

namespace Environment

def get? (environment : Environment) (name : String) : Option String :=
  match environment.find? (·.1 = name) with
  | some (_, value) => if value = "" then none else some value
  | none => none

end Environment

namespace Settings

/-- A variable and the entry it sets. -/
structure Override where
  source : String
  heading : String
  name : String

def overrides : List Override := [
  ⟨"LOGARCHIVE_LOG_ROOTS", "aggregation", "log_roots"⟩,
  ⟨"LOGARCHIVE_ARCHIVE_DIR", "aggregation", "archive_dir"⟩,
  ⟨"LOGARCHIVE_NODE_ID", "aggregation", "node_id"⟩,
  ⟨"LOGARCHIVE_LOG_LEVEL", "logging", "level"⟩]

/-- Sets one entry of a section; none if the section is something else than a table. -/
def setIn (table : Table) (sectionName name : String) (value : String) : Option Table :=
  match table.get? sectionName with
  | none => some (table.set sectionName (.table [(name, .text value)]))
  | some (.table entries) =>
      some (table.set sectionName (.table (Table.set entries name (.text value))))
  | some _ => none

/-- Lays the environment over written settings. -/
def overlay (environment : Environment) (table : Table) : Option Table :=
  overrides.foldlM (fun table override =>
    match environment.get? override.source with
    | none => some table
    | some value => setIn table override.heading override.name value) table

end Settings

end ContainerLogs
