import PointInTime.Proofs.Server.Unreliable

/-!
# The backups of a namespace

Backups are read only: a server keeps them as they are, whatever it is asked.  If they can be
listed, the list holds every object of the namespace that can be read as a backup, and nothing else.
-/

namespace PointInTime
namespace Store

/-- An object of a namespace that can be read as a backup. -/
def HoldsBackup (s : Store) (scope : String) (b : Backup) : Prop :=
  ∃ j ∈ inScope scope s.backups, (Object.ofJson? j).bind Backup.ofObject? = some b

theorem holdsBackup_of_eq {s s' : Store} (h : s'.backups = s.backups) {scope : String}
    {b : Backup} : s'.HoldsBackup scope b ↔ s.HoldsBackup scope b := by
  rw [HoldsBackup, h, HoldsBackup]

/-- The backups of a namespace, in the order of their creation. -/
def backupsIn (scope : String) (s : Store) : List Backup :=
  (inScope scope s.backups).filterMap fun j => (Object.ofJson? j).bind Backup.ofObject?

theorem mem_backupsIn {scope : String} {s : Store} {b : Backup} :
    b ∈ s.backupsIn scope ↔ s.HoldsBackup scope b :=
  List.mem_filterMap

theorem perform_listBackups_ok {s : Store} {scope : String} {backups : List Backup}
    (h : (s.perform (.listBackups scope)).1 = Except.ok backups) :
    backups = s.backupsIn scope := by
  have hlist : (readList (inScope scope s.backups)).map
      (fun list => list.filterMap Backup.ofObject?) = Except.ok backups := h
  cases hread : readList (inScope scope s.backups) with
  | error e =>
      rw [hread] at hlist
      cases hlist
  | ok list =>
      rw [hread] at hlist
      cases hlist
      exact (filterMap_of_readList Backup.ofObject? hread).2

theorem mem_listed_iff {s : Store} {scope : String} {backups : List Backup} {b : Backup}
    (h : (s.perform (.listBackups scope)).1 = Except.ok backups) :
    b ∈ backups ↔ s.HoldsBackup scope b := by
  rw [perform_listBackups_ok h]
  exact mem_backupsIn

theorem backups_perform (s : Store) (r : Request) : (s.perform r).2.backups = s.backups := by
  cases r with
  | createCluster c =>
      simp only [perform]
      split <;> rfl
  | createSecret scope secret =>
      simp only [perform]
      split <;> rfl
  | createRestore job =>
      simp only [perform]
      split <;> rfl
  | createNamespace name =>
      simp only [perform]
      split <;> rfl
  | _ => rfl

theorem UnreliableAnswers.backups_eq {s s' : Store} {d : Demand} {x : d.Answer}
    (h : UnreliableAnswers s d x s') : s'.backups = s.backups := by
  cases d with
  | stamp => rw [h.eq_of_stamp]
  | server r =>
      rcases h.eq_or_eq with rfl | rfl
      · exact backups_perform s r
      · rfl

end Store
end PointInTime
