import PointInTime.Proofs.Catalog.Newest
import PointInTime.Proofs.Restore.Target
import PointInTime.Proofs.Server.Backups
import PointInTime.Proofs.Server.Restores
import PointInTime.Proofs.Standby.Record
import PointInTime.Proofs.Standby.Tracking

/-!
# Due backups

Whether a standby is to be restored, and to which backup, is told by the objects: by the jobs of the
target, the backups of the source, and the record.  At most one backup is due.

Main statement: of the record that the catalog selects it can be told whether its backup is due.
-/

namespace PointInTime
namespace Standby

open Store

/-!
## Due backups
-/

/-- What the stored record says: nothing if it is absent or cannot be read. -/
def record? (s : Settings) (x : Store) : Option TrackingRecord :=
  ((tracked s x).bind ConfigMap.dataOfJson?).bind TrackingRecord.ofData?

/-- Every job of the target that can be read is over. -/
def AllOver (s : Settings) (x : Store) : Prop :=
  ∀ j ∈ x.restoresIn s.targetScope, ∀ r, Restore.ofStored? j = some r → r.state.isTerminal = true

/-- A backup that the standby is to be brought to, as the objects stand. -/
structure Due (s : Settings) (x : Store) (b : Backup) : Prop where
  allOver : AllOver s x
  newest : Backup.IsNewest (x.backupsIn s.sourceScope) s.sourceCluster b
  completed : ∃ completedAt, b.completed? = some completedAt
  located : ∃ destination, (b.status.getD {}).destination = some destination ∧ destination ≠ ""
  stored : ∃ storage, b.storageName = some storage
  isNews : ∀ t, record? s x = some t →
    b.completed?.map Instant.truncate ≠ some t.completedAt.truncate ∨
      (b.status.getD {}).destination ≠ some t.destination

/-- A job that restores a backup to its completion. -/
structure IsJobOf (s : Settings) (b : Backup) (job : Restore) : Prop where
  scope : job.metadata.scope = s.targetScope
  cluster : job.spec.cluster = s.targetCluster
  source : job.spec.backupSource = some ⟨(b.status.getD {}).destination, b.storageName⟩
  target : job.spec.target = none

/-- A record that names a backup: the second it was completed in, and where it lies. -/
structure Names (t : TrackingRecord) (b : Backup) : Prop where
  completed : b.completed?.map Instant.truncate = some t.completedAt
  destination : (b.status.getD {}).destination = some t.destination

variable {s : Settings} {x : Store} {b b' : Backup} {n : BackupRecord} {t last : TrackingRecord}
variable {job : Restore} {clusters : List Cluster}

theorem allOver_iff :
    AllOver s x ↔ ¬ 0 < (((x.restoresIn s.targetScope).filterMap Restore.ofStored?).filter
      (·.state.isInFlight)).length := by
  rw [Nat.pos_iff_ne_zero, not_not, List.length_eq_zero_iff, List.filter_eq_nil_iff]
  constructor
  · intro hover r hr
    rcases List.mem_filterMap.mp hr with ⟨j, hj, hread⟩
    simp [RestoreState.isInFlight, hover j hj r hread]
  · intro hnone j hj r hread
    have hquiet := hnone r (List.mem_filterMap.mpr ⟨j, hj, hread⟩)
    simpa [RestoreState.isInFlight] using hquiet

theorem Due.eq (hb : Due s x b) (hb' : Due s x b') : b = b' :=
  hb.newest.eq hb'.newest

theorem Due.destination (hb : Due s x b) :
    (Catalog.recordIn clusters b).destination = (b.status.getD {}).destination := by
  rcases hb.located with ⟨destination, hdestination, hne⟩
  show (b.status.getD {}).destination.filter _ = _
  rw [hdestination, Option.filter_some, if_pos (by simpa using hne)]

theorem Due.exists_identity (hb : Due s x b) (clusters : List Cluster) :
    ∃ t, TrackingRecord.ofRecord? (Catalog.recordIn clusters b) = some t := by
  rcases hb.completed with ⟨completedAt, hcompleted⟩
  rcases hb.located with ⟨destination, hdestination, -⟩
  refine ⟨⟨completedAt.truncate, destination⟩, ?_⟩
  have hrecord : (Catalog.recordIn clusters b).completedAt = some completedAt := hcompleted
  unfold TrackingRecord.ofRecord?
  rw [hrecord, hb.destination, hdestination]
  rfl

theorem Due.identifies (hb : Due s x b) (clusters : List Cluster)
    (hlast : record? s x = some last) :
    last.identifies (Catalog.recordIn clusters b) = false := by
  unfold TrackingRecord.identifies
  rw [hb.destination, Bool.and_eq_false_iff, beq_eq_false_iff_ne, beq_eq_false_iff_ne]
  exact hb.isNews last hlast

/-!
## What the catalog selected
-/

/-- No job of the target is at work, and this is the record of the newest backup. -/
structure IsNext (s : Settings) (x : Store) (n : BackupRecord) : Prop where
  allOver : AllOver s x
  newest : ∃ b clusters, Backup.IsNewest (x.backupsIn s.sourceScope) s.sourceCluster b ∧
    n = Catalog.recordIn clusters b

theorem isNext_of_newestOf (hover : AllOver s x)
    (hn : Catalog.newestOf (x.backupsIn s.sourceScope) clusters s.sourceCluster = some n) :
    IsNext s x n := by
  rcases Catalog.isNewest_of_newestOf hn with ⟨b, hb, hrecord⟩
  exact ⟨hover, b, clusters, hb, hrecord⟩

theorem not_due_of_newestOf
    (hnone : Catalog.newestOf (x.backupsIn s.sourceScope) clusters s.sourceCluster = none)
    (b : Backup) : ¬ Due s x b := by
  intro hdue
  exact Catalog.not_qualifies_of_newestOf hnone hdue.newest.mem hdue.newest.qualifies

theorem IsNext.record_of_due (hn : IsNext s x n) (hb : Due s x b) :
    ∃ clusters, n = Catalog.recordIn clusters b := by
  rcases hn.newest with ⟨b', clusters, hnewest, rfl⟩
  exact ⟨clusters, by rw [hnewest.eq hb.newest]⟩

theorem IsNext.exists_due (hn : IsNext s x n) (hidentity : TrackingRecord.ofRecord? n = some t)
    {storage : String} (hstorage : n.storageName = some storage)
    (hnews : ∀ last, record? s x = some last → last.identifies n = false) :
    ∃ b clusters, Due s x b ∧ n = Catalog.recordIn clusters b := by
  rcases hn.newest with ⟨b, clusters, hnewest, rfl⟩
  rcases TrackingRecord.ofRecord?_eq_some hidentity with ⟨hcompleted, hdestination⟩
  rcases Option.map_eq_some_iff.mp hcompleted with ⟨completedAt, hcompletedAt, -⟩
  rcases Option.filter_eq_some_iff.mp hdestination with ⟨hlocated, hne⟩
  refine ⟨b, clusters, ?_, rfl⟩
  constructor
  · exact hn.allOver
  · exact hnewest
  · exact ⟨completedAt, hcompletedAt⟩
  · exact ⟨t.destination, hlocated, by simpa using hne⟩
  · exact ⟨storage, hstorage⟩
  · intro last hlast
    have hother := hnews last hlast
    unfold TrackingRecord.identifies at hother
    rw [Bool.and_eq_false_iff, beq_eq_false_iff_ne, beq_eq_false_iff_ne, hdestination,
      ← hlocated] at hother
    exact hother

theorem isJobOf_of_build (hb : Due s x b) {name storage : String} {completedAt : Instant}
    (hcompleted : b.completed? = some completedAt) (hstorage : b.storageName = some storage)
    (hjob : Job.build name s.targetScope s.targetCluster (Catalog.recordIn clusters b) completedAt
      storage = Except.ok job) : IsJobOf s b job := by
  rcases Job.build_eq_ok hjob with ⟨-, hscope, -, destination, hdestination, hsource⟩
  constructor
  · exact hscope
  · exact Job.cluster_of_build hjob
  · rw [hsource, ← hdestination, hb.destination, hstorage]
  · rw [Job.target_of_build hjob]
    exact if_pos hcompleted

end Standby
end PointInTime
