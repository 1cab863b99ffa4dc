import PointInTime.Resource.Backup

/-!
# Restore jobs

A restore job names the cluster to fill, where the backup lies, and an instant if the logs after
the backup are to be replayed.  The operator reports its state.  A word for a state that is not
known here means that the job is still at work.
-/

namespace PointInTime

/-! ## States -/

inductive RestoreState where
  | starting
  | running
  | succeeded
  | failed
  | error
  | unknown (raw : String)
deriving DecidableEq, Repr

namespace RestoreState

def ofText (raw : String) : RestoreState :=
  if raw = "" ∨ raw = "Starting" then starting
  else if raw = "Running" then running
  else if raw = "Succeeded" then succeeded
  else if raw = "Failed" then failed
  else if raw = "Error" then error
  else unknown raw

def text : RestoreState → String
  | starting => "Starting"
  | running => "Running"
  | succeeded => "Succeeded"
  | failed => "Failed"
  | error => "Error"
  | unknown raw => "Unknown(" ++ raw ++ ")"

def isTerminal : RestoreState → Bool
  | succeeded => true
  | failed => true
  | error => true
  | _ => false

/-- Whether a job in this state still occupies its target. -/
def isInFlight (s : RestoreState) : Bool :=
  !s.isTerminal

end RestoreState

/-! ## Objects -/

structure BackupSource where
  destination : Option String := none
  storageName : Option String := none
deriving DecidableEq

structure RecoveryTarget where
  targetType : String
  date : Option String := none
  backupSource : Option BackupSource := none
deriving DecidableEq

structure RestoreSpec where
  cluster : String
  backupName : Option String := none
  backupSource : Option BackupSource := none
  /-- Absent where the backup is restored as it was taken. -/
  target : Option RecoveryTarget := none
deriving DecidableEq

structure RestoreStatus where
  state : Option String := none
  comments : Option String := none
  completed : Option Instant := none
deriving DecidableEq

structure Restore where
  apiVersion : String := Resource.Kind.operatorVersion
  kind : String := Resource.Kind.restore
  metadata : Metadata
  spec : RestoreSpec
  status : Option RestoreStatus := none
deriving DecidableEq

namespace BackupSource

def ofJson? (j : Json) : Option BackupSource := do
  let r ← j.record? ["destination", "storageName"]
  let destination ← Json.optionally Json.asString? (r "destination")
  let storageName ← Json.optionally Json.asString? (r "storageName")
  return ⟨destination, storageName⟩

def toJson (s : BackupSource) : Json :=
  .obj <|
    Json.present "destination" (s.destination.map .str) ++
      Json.present "storageName" (s.storageName.map .str)

end BackupSource

namespace RecoveryTarget

def ofJson? (j : Json) : Option RecoveryTarget := do
  let r ← j.record? ["type", "date", "backupSource"]
  let targetType ← Json.required Json.asString? (r "type")
  let date ← Json.optionally Json.asString? (r "date")
  let backupSource ← Json.optionally BackupSource.ofJson? (r "backupSource")
  return ⟨targetType, date, backupSource⟩

def toJson (t : RecoveryTarget) : Json :=
  .obj <|
    ("type", .str t.targetType) :: Json.present "date" (t.date.map .str) ++
      Json.present "backupSource" (t.backupSource.map BackupSource.toJson)

end RecoveryTarget

namespace RestoreSpec

def ofJson? (j : Json) : Option RestoreSpec := do
  let r ← j.record? ["pxcCluster", "backupName", "backupSource", "pitr"]
  let cluster ← Json.required Json.asString? (r "pxcCluster")
  let backupName ← Json.optionally Json.asString? (r "backupName")
  let backupSource ← Json.optionally BackupSource.ofJson? (r "backupSource")
  let target ← Json.optionally RecoveryTarget.ofJson? (r "pitr")
  return ⟨cluster, backupName, backupSource, target⟩

def toJson (s : RestoreSpec) : Json :=
  .obj <|
    ("pxcCluster", .str s.cluster) :: Json.present "backupName" (s.backupName.map .str) ++
      Json.present "backupSource" (s.backupSource.map BackupSource.toJson) ++
      Json.present "pitr" (s.target.map RecoveryTarget.toJson)

end RestoreSpec

namespace RestoreStatus

def ofJson? (j : Json) : Option RestoreStatus := do
  let r ← j.record? ["state", "comments", "completed"]
  let state ← Json.optionally Json.asString? (r "state")
  let comments ← Json.optionally Json.asString? (r "comments")
  let completed ← Json.optionally Instant.ofJson? (r "completed")
  return ⟨state, comments, completed⟩

def toJson (s : RestoreStatus) : Json :=
  .obj <|
    Json.present "state" (s.state.map .str) ++ Json.present "comments" (s.comments.map .str) ++
      Json.present "completed" (s.completed.map Instant.toJson)

end RestoreStatus

namespace Restore

def ofJson? (j : Json) : Option Restore := do
  let r ← j.record? ["apiVersion", "kind", "metadata", "spec", "status"]
  let apiVersion ← Json.defaulted Resource.Kind.operatorVersion Json.asString? (r "apiVersion")
  let kind ← Json.defaulted Resource.Kind.restore Json.asString? (r "kind")
  let metadata ← Json.required Metadata.ofJson? (r "metadata")
  let spec ← Json.required RestoreSpec.ofJson? (r "spec")
  let status ← Json.optionally RestoreStatus.ofJson? (r "status")
  return ⟨apiVersion, kind, metadata, spec, status⟩

def toJson (r : Restore) : Json :=
  .obj <|
    [("apiVersion", .str r.apiVersion), ("kind", .str r.kind), ("metadata", r.metadata.toJson),
        ("spec", r.spec.toJson)] ++
      Json.present "status" (r.status.map RestoreStatus.toJson)

def ofObject? (o : Object) : Option Restore :=
  ofJson? o.toJson

/-- The state that the operator reports; none is reported before it starts. -/
def state (r : Restore) : RestoreState :=
  .ofText ((r.status.bind (·.state)).getD "")

end Restore
end PointInTime
