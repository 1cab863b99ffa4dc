import PointInTime.Catalog.Record
import PointInTime.Error
import PointInTime.Name

/-!
# Tracking records

The identity of the backup that a standby cluster was last restored from: the second it was
completed in and where it lies.  It is stored as texts, and a record whose time cannot be read
counts as none.
-/

namespace PointInTime

structure TrackingRecord where
  completedAt : Instant
  destination : String
deriving DecidableEq

namespace TrackingRecord

def timeKey : String := "lastCompletedBackupTime"

def destinationKey : String := "lastBackupDestination"

/-- The identity of a backup, if it was completed and lies somewhere. -/
def ofRecord? (r : BackupRecord) : Option TrackingRecord := do
  let completedAt ← r.completedAt
  let destination ← r.destination
  return ⟨completedAt.truncate, destination⟩

/-- Whether this is the identity of a backup, seconds compared. -/
def identifies (t : TrackingRecord) (r : BackupRecord) : Bool :=
  r.completedAt.map Instant.truncate == some t.completedAt.truncate &&
    r.destination == some t.destination

def toData (t : TrackingRecord) : Assoc String :=
  Assoc.ofList [(timeKey, t.completedAt.format), (destinationKey, t.destination)]

def ofData? (data : Assoc String) : Option TrackingRecord := do
  let time ← data.find? timeKey
  let destination ← data.find? destinationKey
  let completedAt ← Instant.ofGiven? time.toList
  return ⟨completedAt, destination⟩

end TrackingRecord
end PointInTime
