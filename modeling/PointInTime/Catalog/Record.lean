import PointInTime.Instant.Json
import PointInTime.Resource.Backup

/-!
# Records of backups

What a restore needs to know about a backup: the backup itself and whether the cluster it belongs
to archives its logs.  Empty texts count as absent.
-/

namespace PointInTime

structure BackupRecord where
  name : String
  cluster : String
  state : BackupState
  completedAt : Option Instant
  destination : Option String
  storageName : Option String
  archivesLogs : Bool
  latestRestorableTime : Option Instant
deriving DecidableEq

namespace BackupRecord

def ofBackup (b : Backup) (archivesLogs : Bool) : BackupRecord :=
  let status := b.status.getD {}
  { name := b.metadata.name
    cluster := b.spec.cluster
    state := b.state
    completedAt := status.completed
    destination := status.destination.filter (· ≠ "")
    storageName := b.storageName
    archivesLogs := archivesLogs
    latestRestorableTime := status.latestRestorableTime }

def hasDestination (r : BackupRecord) : Bool :=
  r.destination.isSome

def isEligible (r : BackupRecord) : Bool :=
  r.state == .succeeded

/-! ## Order -/

/-- Whether a record may stand before another: no later completion stands behind an earlier one,
and records without completion stand last. -/
def notOlder (a b : BackupRecord) : Bool :=
  match a.completedAt, b.completedAt with
  | _, none => true
  | none, some _ => false
  | some s, some t => t ≤ s

/-- Newest first; records of the same completion keep their order. -/
def sortNewestFirst (records : List BackupRecord) : List BackupRecord :=
  records.mergeSort notOlder

/-! ## Writing -/

def jsonFields (r : BackupRecord) : List (String × Json) :=
  [("name", .str r.name), ("cluster", .str r.cluster), ("state", .str r.state.text),
    ("completedAt", Instant.optionalJson r.completedAt),
    ("destination", Json.optional r.destination),
    ("storageName", Json.optional r.storageName),
    ("archivingEnabled", .bool r.archivesLogs),
    ("latestRestorableTime", Instant.optionalJson r.latestRestorableTime)]

def toJson (r : BackupRecord) : Json :=
  .obj r.jsonFields

end BackupRecord
end PointInTime
