import ContainerLogs.Path
import ContainerLogs.Settings.Basic

/-!
Where the archive of an application goes by default: below the archive directory, under the owner,
the application and the node that its logs come from.
-/
namespace ContainerLogs

inductive LocationFault where
  | noArchiveDir
  | noNode
  /-- The archive directory starts in a home that is not known. -/
  | home (fault : Path.HomeFault)
  deriving DecidableEq, Repr

def LocationFault.message : LocationFault → String
  | noArchiveDir => "aggregation.archive_dir is not configured"
  | noNode => "No node id given and aggregation.node_id is not configured"
  | home .unknown => "Could not determine home directory."
  | home .nullInName => "embedded null byte"

namespace AggregationSettings

/-- The place of an archive. An empty node stands for the configured one. -/
def archivePath (settings : AggregationSettings) (homes : Path.Homes)
    (owner application node : String) : Except LocationFault Path :=
  if settings.archiveDir = "" then .error .noArchiveDir
  else
    let node := if node = "" then settings.nodeId else node
    if node = "" then .error .noNode
    else match (Path.ofText settings.archiveDir).expandHome homes with
      | .error fault => .error (.home fault)
      | .ok base => .ok ((((base.child owner).child "logs").child application).child node)

end AggregationSettings

end ContainerLogs
