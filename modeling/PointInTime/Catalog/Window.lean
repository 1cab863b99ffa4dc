import PointInTime.Catalog.Record
import PointInTime.Error

/-!
# Recovery windows

A backup with archived logs can be restored to every instant from its completion to the last one
the logs cover.  Without them its completion is the only instant.
-/

namespace PointInTime

structure RecoveryWindow where
  earliest : Instant
  latest : Instant
deriving DecidableEq

namespace RecoveryWindow

def of? (earliest latest : Instant) : Option RecoveryWindow :=
  if earliest ≤ latest then some ⟨earliest, latest⟩ else none

def point (t : Instant) : RecoveryWindow := ⟨t, t⟩

def isPoint (w : RecoveryWindow) : Bool :=
  w.earliest == w.latest

instance : Membership Instant RecoveryWindow where
  mem w t := w.earliest ≤ t ∧ t ≤ w.latest

theorem mem_iff {t : Instant} {w : RecoveryWindow} :
    t ∈ w ↔ w.earliest ≤ t ∧ t ≤ w.latest := Iff.rfl

instance (t : Instant) (w : RecoveryWindow) : Decidable (t ∈ w) :=
  decidable_of_iff _ mem_iff.symm

def check (w : RecoveryWindow) (t : Instant) : Except Error Unit :=
  if t ∈ w then .ok () else .error (.outOfRange t w.earliest w.latest)

def text (w : RecoveryWindow) : String :=
  "[" ++ w.earliest.format ++ ", " ++ w.latest.format ++ "]"

def toJson (w : RecoveryWindow) : Json :=
  .obj [("earliest", .str w.earliest.format), ("latest", .str w.latest.format)]

end RecoveryWindow

namespace BackupRecord

/-- The window of arbitrary instants: logs are archived, both ends are known and in order. -/
def pointInTimeWindow? (r : BackupRecord) : Option RecoveryWindow := do
  if !r.archivesLogs then none
  let earliest ← r.completedAt
  let latest ← r.latestRestorableTime
  RecoveryWindow.of? earliest latest

/-- The window that a restore has to land in, if the backup was ever completed. -/
def window? (r : BackupRecord) : Option RecoveryWindow :=
  r.pointInTimeWindow?.or (r.completedAt.map RecoveryWindow.point)

def window (r : BackupRecord) : Except Error RecoveryWindow :=
  match r.window? with
  | some w => .ok w
  | none => .error (.validation ("backup " ++ r.name ++ " has no completion time"))

/-- Check an instant against a backup; the window it lies in. -/
def checkInstant (r : BackupRecord) (t : Instant) : Except Error RecoveryWindow := do
  let w ← r.window
  w.check t
  return w

end BackupRecord

/-! ## Listings -/

structure BackupListing where
  record : BackupRecord
  window : Option RecoveryWindow
  pointInTime : Bool
deriving DecidableEq

namespace BackupListing

/-- Only backups that can be restored from are shown with a window. -/
def ofRecord (r : BackupRecord) : BackupListing where
  record := r
  window := if r.isEligible then r.window? else none
  pointInTime := r.pointInTimeWindow?.isSome

def toJson (l : BackupListing) : Json :=
  .obj <|
    l.record.jsonFields ++
      [("windowStart", Instant.optionalJson (l.window.map (·.earliest))),
        ("windowEnd", Instant.optionalJson (l.window.map (·.latest))),
        ("pointInTimeAvailable", .bool l.pointInTime)]

end BackupListing
end PointInTime
