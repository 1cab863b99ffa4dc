import PointInTime.Catalog.Basic

/-!
# The order of the catalog

Of two records one may always stand before the other, and those that were completed stand in the
order of their completion.

Main statements: the catalog holds the records of the listed backups and no others, and none of them
stands before one that was completed later.
-/

namespace PointInTime
namespace BackupRecord

theorem notOlder_trans (a b c : BackupRecord) (hab : notOlder a b = true)
    (hbc : notOlder b c = true) : notOlder a c = true := by
  unfold notOlder at *
  cases hc : c.completedAt with
  | none => cases a.completedAt <;> rfl
  | some u =>
      cases hb : b.completedAt with
      | none =>
          rw [hb, hc] at hbc
          cases hbc
      | some t =>
          cases ha : a.completedAt with
          | none =>
              rw [ha, hb] at hab
              cases hab
          | some s =>
              rw [ha, hb] at hab
              rw [hb, hc] at hbc
              have hts : t ≤ s := of_decide_eq_true hab
              have hut : u ≤ t := of_decide_eq_true hbc
              exact decide_eq_true (Instant.le_trans hut hts)

theorem notOlder_total (a b : BackupRecord) : (notOlder a b || notOlder b a) = true := by
  unfold notOlder
  cases a.completedAt with
  | none => cases b.completedAt <;> rfl
  | some s =>
      cases b.completedAt with
      | none => rfl
      | some t =>
          rcases Instant.le_total s t with hle | hle
          · simp [hle]
          · simp [hle]

theorem le_of_notOlder {a b : BackupRecord} {s t : Instant} (ha : a.completedAt = some s)
    (hb : b.completedAt = some t) (hab : notOlder a b = true) : t ≤ s := by
  unfold notOlder at hab
  rw [ha, hb] at hab
  exact of_decide_eq_true hab

end BackupRecord

namespace Catalog

variable {backups : List Backup} {clusters : List Cluster} {r : BackupRecord}

theorem archivesLogs_concat (clusters : List Cluster) (c : Cluster) (name : String) :
    archivesLogs (clusters ++ [c]) name =
      if c.name = name then c.archivesLogs else archivesLogs clusters name := by
  unfold archivesLogs
  rw [List.foldl_append, List.foldl_cons, List.foldl_nil]
  split <;> rfl

theorem mem_records :
    r ∈ records backups clusters ↔
      ∃ b ∈ backups, r = .ofBackup b (archivesLogs clusters b.spec.cluster) := by
  unfold records BackupRecord.sortNewestFirst
  rw [(List.mergeSort_perm _ _).mem_iff, List.mem_map]
  constructor
  · rintro ⟨b, hb, hr⟩
    exact ⟨b, hb, hr.symm⟩
  · rintro ⟨b, hb, hr⟩
    exact ⟨b, hb, hr.symm⟩

@[simp] theorem records_nil (clusters : List Cluster) : records [] clusters = [] := by
  simp [records, BackupRecord.sortNewestFirst]

theorem pairwise_records (backups : List Backup) (clusters : List Cluster) :
    (records backups clusters).Pairwise fun a b => a.notOlder b = true :=
  List.pairwise_mergeSort BackupRecord.notOlder_trans BackupRecord.notOlder_total _

end Catalog
end PointInTime
