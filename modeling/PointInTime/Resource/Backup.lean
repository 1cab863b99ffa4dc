import PointInTime.Instant.Json
import PointInTime.Resource.Object

/-!
# Backups

A backup as the database operator describes it.  The operator writes the status; a backup without
one has not started.
-/

namespace PointInTime

/-! ## States -/

inductive BackupState where
  | pending
  | running
  | succeeded
  | failed
deriving DecidableEq, Repr

namespace BackupState

/-- The operator's word for a state; words it does not know mean that nothing has begun. -/
def ofText (raw : String) : BackupState :=
  if raw = "Succeeded" then succeeded
  else if raw = "Failed" ∨ raw = "Error" then failed
  else if raw = "Running" ∨ raw = "Starting" then running
  else pending

def text : BackupState → String
  | pending => "Pending"
  | running => "Running"
  | succeeded => "Succeeded"
  | failed => "Failed"

def isTerminal : BackupState → Bool
  | succeeded => true
  | failed => true
  | _ => false

end BackupState

/-! ## Objects -/

structure BackupSpec where
  cluster : String := ""
  storageName : Option String := none
deriving DecidableEq

structure BackupStatus where
  state : Option String := none
  completed : Option Instant := none
  destination : Option String := none
  storageName : Option String := none
  latestRestorableTime : Option Instant := none
deriving DecidableEq

structure Backup where
  apiVersion : String := Resource.Kind.operatorVersion
  kind : String := Resource.Kind.backup
  metadata : Metadata
  spec : BackupSpec := {}
  status : Option BackupStatus := none
deriving DecidableEq

namespace BackupSpec

def ofJson? (j : Json) : Option BackupSpec := do
  let r ← j.record? ["pxcCluster", "storageName"]
  let cluster ← Json.defaulted "" Json.asString? (r "pxcCluster")
  let storageName ← Json.optionally Json.asString? (r "storageName")
  return ⟨cluster, storageName⟩

def toJson (s : BackupSpec) : Json :=
  .obj <| ("pxcCluster", .str s.cluster) :: Json.present "storageName" (s.storageName.map .str)

end BackupSpec

namespace BackupStatus

def ofJson? (j : Json) : Option BackupStatus := do
  let r ← j.record?
    ["state", "completed", "destination", "storageName", "latestRestorableTime"]
  let state ← Json.optionally Json.asString? (r "state")
  let completed ← Json.optionally Instant.ofJson? (r "completed")
  let destination ← Json.optionally Json.asString? (r "destination")
  let storageName ← Json.optionally Json.asString? (r "storageName")
  let latest ← Json.optionally Instant.ofJson? (r "latestRestorableTime")
  return ⟨state, completed, destination, storageName, latest⟩

def toJson (s : BackupStatus) : Json :=
  .obj <|
    Json.present "state" (s.state.map .str) ++
      Json.present "completed" (s.completed.map Instant.toJson) ++
      Json.present "destination" (s.destination.map .str) ++
      Json.present "storageName" (s.storageName.map .str) ++
      Json.present "latestRestorableTime" (s.latestRestorableTime.map Instant.toJson)

end BackupStatus

namespace Backup

def ofJson? (j : Json) : Option Backup := do
  let r ← j.record? ["apiVersion", "kind", "metadata", "spec", "status"]
  let apiVersion ← Json.defaulted Resource.Kind.operatorVersion Json.asString? (r "apiVersion")
  let kind ← Json.defaulted Resource.Kind.backup Json.asString? (r "kind")
  let metadata ← Json.required Metadata.ofJson? (r "metadata")
  let spec ← Json.defaulted {} BackupSpec.ofJson? (r "spec")
  let status ← Json.optionally BackupStatus.ofJson? (r "status")
  return ⟨apiVersion, kind, metadata, spec, status⟩

def toJson (b : Backup) : Json :=
  .obj <|
    [("apiVersion", .str b.apiVersion), ("kind", .str b.kind), ("metadata", b.metadata.toJson),
        ("spec", b.spec.toJson)] ++
      Json.present "status" (b.status.map BackupStatus.toJson)

def ofObject? (o : Object) : Option Backup :=
  ofJson? o.toJson

def state (b : Backup) : BackupState :=
  match b.status.bind (·.state) with
  | some raw => .ofText raw
  | none => .pending

/-- The storage a backup was written to: the one reported, else the one asked for; an empty name
is none. -/
def storageName (b : Backup) : Option String :=
  ((b.status.bind (·.storageName)).or b.spec.storageName).filter (· ≠ "")

end Backup
end PointInTime
