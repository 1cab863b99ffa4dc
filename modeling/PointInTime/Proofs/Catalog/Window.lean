import PointInTime.Catalog.Window

/-!
# The window of a backup

A backup that was completed has a window, and the window begins with the completion: logs only
prolong it.  Main statement: what a restore may land on without the logs, it may land on with them.
-/

namespace PointInTime
namespace BackupRecord

theorem window_eq_ok_iff {r : BackupRecord} {w : RecoveryWindow} :
    r.window = Except.ok w ↔ r.window? = some w := by
  unfold window
  cases r.window? <;> simp

theorem pointInTimeWindow?_eq_some {r : BackupRecord} {w : RecoveryWindow}
    (hw : r.pointInTimeWindow? = some w) :
    r.completedAt = some w.earliest ∧ w.earliest ≤ w.latest := by
  unfold pointInTimeWindow? at hw
  split at hw
  · cases hw
  · simp only [Option.bind_eq_bind, Option.bind_eq_some_iff] at hw
    rcases hw with ⟨earliest, hearliest, latest, _, hof⟩
    unfold RecoveryWindow.of? at hof
    split at hof
    · rename_i hle
      cases hof
      exact ⟨hearliest, hle⟩
    · cases hof

theorem window?_eq_some {r : BackupRecord} {w : RecoveryWindow} (hw : r.window? = some w) :
    r.completedAt = some w.earliest ∧ w.earliest ≤ w.latest := by
  unfold window? at hw
  cases hlogs : r.pointInTimeWindow? with
  | some w' =>
      rw [hlogs] at hw
      cases hw
      exact pointInTimeWindow?_eq_some hlogs
  | none =>
      rw [hlogs] at hw
      rcases Option.map_eq_some_iff.mp hw with ⟨t, ht, rfl⟩
      exact ⟨ht, Instant.le_refl t⟩

theorem exists_window?_of_completedAt {r : BackupRecord} {t : Instant}
    (ht : r.completedAt = some t) : ∃ w, r.window? = some w ∧ t ∈ w := by
  obtain ⟨w, hw⟩ : ∃ w, r.window? = some w := by
    unfold window?
    cases r.pointInTimeWindow? with
    | some w => exact ⟨w, rfl⟩
    | none => exact ⟨.point t, by rw [ht]; rfl⟩
  obtain ⟨hearliest, hle⟩ := window?_eq_some hw
  rw [ht] at hearliest
  cases hearliest
  exact ⟨w, hw, Instant.le_refl _, hle⟩

theorem mem_window?_with_logs {b : Backup} {w : RecoveryWindow} {t : Instant}
    (hw : (ofBackup b false).window? = some w) (ht : t ∈ w) (archivesLogs : Bool) :
    ∃ w', (ofBackup b archivesLogs).window? = some w' ∧ t ∈ w' := by
  have hpoint : ((ofBackup b false).completedAt.map RecoveryWindow.point) = some w := hw
  obtain ⟨completion, hcompleted, rfl⟩ := Option.map_eq_some_iff.mp hpoint
  have hsame : t = completion := Instant.le_antisymm ht.2 ht.1
  subst hsame
  exact exists_window?_of_completedAt hcompleted

end BackupRecord
end PointInTime
