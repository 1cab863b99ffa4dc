import PointInTime.Catalog.Window
import PointInTime.Server.Request

/-!
# The catalog of backups

The backups of a namespace as records, newest first.  A namespace whose backups cannot be listed
has none, and clusters that cannot be listed archive nothing: both are normal while a cluster is
being set up, and neither ends the work of the caller.
-/

namespace PointInTime
namespace Catalog

/-! ## Records from objects -/

/-- Whether the cluster of a name archives its logs; of two clusters of one name the later counts,
and a name that no cluster has archives nothing. -/
def archivesLogs (clusters : List Cluster) (name : String) : Bool :=
  (clusters.foldl (fun found c => if c.name = name then some c.archivesLogs else found)
    none).getD false

def records (backups : List Backup) (clusters : List Cluster) : List BackupRecord :=
  BackupRecord.sortNewestFirst <|
    backups.map fun b => .ofBackup b (archivesLogs clusters b.spec.cluster)

/-! ## Reading the catalog -/

/-- Every backup of a namespace, whatever its state, newest first. -/
def listAll (scope : String) : Procedure Server (List BackupRecord) := do
  match ← (Operation.listBackups scope).run with
  | .error _ => return []
  | .ok [] => return []
  | .ok backups =>
      match ← (Operation.listClusters scope).run with
      | .error _ => return records backups []
      | .ok clusters => return records backups clusters

def list (scope : String) : Procedure Server (List BackupRecord) := do
  return (← listAll scope).filter (·.isEligible)

def ofCluster (cluster : Option String) (r : BackupRecord) : Bool :=
  match cluster with
  | some c => r.cluster == c
  | none => true

def newest (scope : String) (cluster : Option String) :
    Procedure Server (Option BackupRecord) := do
  return (← list scope).find? (ofCluster cluster)

/-- The backup of a name, which has to be one that can be restored from. -/
def get (scope name : String) : Operation BackupRecord := do
  let found := (← listAll scope).find? (·.name == name)
  let r ← Operation.orMissing (.missing "backup" name scope) found
  if r.isEligible then return r
  else
    throw (.validation
      ("backup " ++ name ++ " is " ++ r.state.text ++ ", only Succeeded backups can be restored"))

end Catalog
end PointInTime
