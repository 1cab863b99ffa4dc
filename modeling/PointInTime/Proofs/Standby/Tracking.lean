import PointInTime.Standby.Tracking
import PointInTime.Proofs.Instant.Plain

/-!
# Identities on the way to their texts and back

The identity of a backup survives being stored: what is read back is the identity, for every
completion and every destination.  It identifies all backups that were completed in the same second
and lie in the same place, and no others.
-/

namespace PointInTime
namespace TrackingRecord

variable {t : TrackingRecord} {n b : BackupRecord}

/-- Two backups that a record cannot tell apart: they were completed in the same second, if at all,
and lie in the same place. -/
def SameIdentity (n b : BackupRecord) : Prop :=
  n.completedAt.map Instant.truncate = b.completedAt.map Instant.truncate ∧
    n.destination = b.destination

theorem ofRecord?_eq_some (ht : ofRecord? b = some t) :
    b.completedAt.map Instant.truncate = some t.completedAt ∧
      b.destination = some t.destination := by
  unfold ofRecord? at ht
  cases hcompleted : b.completedAt with
  | none =>
      rw [hcompleted] at ht
      cases ht
  | some completedAt =>
      cases hdestination : b.destination with
      | none =>
          rw [hcompleted, hdestination] at ht
          cases ht
      | some destination =>
          rw [hcompleted, hdestination] at ht
          cases ht
          exact ⟨rfl, rfl⟩

theorem truncate_completedAt (ht : ofRecord? b = some t) :
    t.completedAt.truncate = t.completedAt := by
  have hcompleted := (ofRecord?_eq_some ht).1
  cases hb : b.completedAt with
  | none =>
      rw [hb] at hcompleted
      cases hcompleted
  | some completedAt =>
      rw [hb] at hcompleted
      rw [← Option.some.inj hcompleted]
      exact Instant.truncate_truncate completedAt

theorem identifies_iff (ht : ofRecord? b = some t) :
    t.identifies n = true ↔ SameIdentity n b := by
  obtain ⟨hcompleted, hdestination⟩ := ofRecord?_eq_some ht
  rw [SameIdentity, hcompleted, hdestination, identifies, truncate_completedAt ht]
  simp

/-!
## Stored texts
-/

theorem ofData?_toData (t : TrackingRecord) :
    ofData? t.toData = some ⟨t.completedAt.truncate, t.destination⟩ := by
  have htime : t.toData.find? timeKey = some t.completedAt.format :=
    Assoc.find?_set_of_ne (by decide) _ _
  have hdestination : t.toData.find? destinationKey = some t.destination :=
    Assoc.find?_set_self _ _ _
  simp [ofData?, htime, hdestination, Instant.ofGiven?_format]

theorem ofData?_toData_of_identity (ht : ofRecord? b = some t) : ofData? t.toData = some t := by
  rw [ofData?_toData, truncate_completedAt ht]

end TrackingRecord
end PointInTime
