import ContainerLogs.Log.Line
import ContainerLogs.Settings.Value

/-!
The settings of the program, as they are used once checked, and their form as a table.
-/
namespace ContainerLogs

structure AggregationSettings where
  logRoots : List String := []
  /-- Root of the archive tree; empty if archives need an explicit place. -/
  archiveDir : String := ""
  nodeId : String := ""
  deriving DecidableEq, Repr

structure ClusterSettings where
  address : String := "0.0.0.0:8032"
  adminAddress : String := "0.0.0.0:8033"
  schedulerAddress : String := "0.0.0.0:8030"
  deriving DecidableEq, Repr

structure Settings where
  aggregation : AggregationSettings := {}
  cluster : ClusterSettings := {}
  logging : LogSettings := {}
  deriving DecidableEq, Repr

namespace Settings

def ofAggregation (settings : AggregationSettings) : Table :=
  [("log_roots", .list (settings.logRoots.map .text)), ("archive_dir", .text settings.archiveDir),
    ("node_id", .text settings.nodeId)]

def ofCluster (settings : ClusterSettings) : Table :=
  [("address", .text settings.address), ("admin_address", .text settings.adminAddress),
    ("scheduler_address", .text settings.schedulerAddress)]

def ofLogging (settings : LogSettings) : Table :=
  [("level", .text settings.level.name), ("format", .text settings.format.name)]

/-- The sections by name. -/
def sections (settings : Settings) : List (String × Table) :=
  [("aggregation", ofAggregation settings.aggregation), ("cluster", ofCluster settings.cluster),
    ("logging", ofLogging settings.logging)]

def table (settings : Settings) : Table :=
  settings.sections.map fun (name, entries) => (name, .table entries)

end Settings

end ContainerLogs
