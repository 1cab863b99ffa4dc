import PointInTime.Proofs.Catalog.Window
import PointInTime.Proofs.Instant.Plain
import PointInTime.Proofs.Restore.Job

/-!
# The instant that a job asks for

A job names its instant in the plain form, which shows whole seconds, and it names none where it
asks for the completion of its backup.  What is asked for is therefore the start of the second of
an instant, or the completion.

Main statement: if the instant lies in the window of the backup, what is asked for does so exactly
if the backup was completed by the start of that second or the instant is its completion.
-/

namespace PointInTime
namespace Job

variable {name scope cluster storageName : String} {backup : BackupRecord} {t : Instant}
variable {job : Restore} {w : RecoveryWindow}

/-- The instant that a job asks for: the one that it names, read as what people give is read, or
the completion of the backup. -/
def askedFor? (backup : BackupRecord) (job : Restore) : Option Instant :=
  match job.spec.target with
  | none => backup.completedAt
  | some target => target.date.bind fun date => Instant.ofGiven? date.toList

theorem target_of_build
    (hjob : build name scope cluster backup t storageName = Except.ok job) :
    job.spec.target =
      if backup.completedAt = some t then none else some (target t storageName) := by
  unfold build at hjob
  split at hjob
  · cases hjob
  · cases hjob
    rfl

theorem askedFor?_of_build
    (hjob : build name scope cluster backup t storageName = Except.ok job) :
    askedFor? backup job = if backup.completedAt = some t then some t else some t.truncate := by
  unfold askedFor?
  rw [target_of_build hjob]
  by_cases hcompleted : backup.completedAt = some t
  · simp only [hcompleted, if_true]
  · simp only [hcompleted, if_false, target, Option.bind_some, Instant.ofGiven?_format]

theorem askedFor_mem_iff (hw : backup.window = Except.ok w) (ht : t ∈ w)
    (hjob : build name scope cluster backup t storageName = Except.ok job) :
    ∃ asked, askedFor? backup job = some asked ∧
      (asked ∈ w ↔ t = w.earliest ∨ w.earliest ≤ t.truncate) := by
  obtain ⟨hcompletion, _⟩ := BackupRecord.window?_eq_some (BackupRecord.window_eq_ok_iff.mp hw)
  rw [askedFor?_of_build hjob, hcompletion]
  by_cases hsame : t = w.earliest
  · refine ⟨t, by rw [if_pos (by rw [hsame])], ?_⟩
    exact ⟨fun _ => Or.inl hsame, fun _ => ht⟩
  · refine ⟨t.truncate, by rw [if_neg (by simp [Ne.symm hsame])], ?_⟩
    -- The second begins at or before its instant, so only the earlier bound can be missed.
    have hlatest : t.truncate ≤ w.latest := Instant.le_trans t.truncate_le ht.2
    constructor
    · exact fun hmem => Or.inr hmem.1
    · rintro (hearliest | hearliest)
      · exact absurd hearliest hsame
      · exact ⟨hearliest, hlatest⟩

/-!
## Fractions of a second
-/

/-- A backup with archived logs. -/
def exampleLogged (completion last : Instant) : BackupRecord where
  name := "b1"
  cluster := "c1"
  state := .succeeded
  completedAt := some completion
  destination := some "s3://b/b1"
  storageName := some "s3"
  archivesLogs := true
  latestRestorableTime := some last

/-- A fraction of a second is lost, and the window is not left. -/
theorem askedFor_mem_within_logs :
    ∃ job asked, build "r1" "staging" "c2" (exampleLogged ⟨1735689600, 0, by decide⟩
        ⟨1735689610, 0, by decide⟩) ⟨1735689605, 500000000, by decide⟩ "s3" = Except.ok job ∧
      askedFor? (exampleLogged ⟨1735689600, 0, by decide⟩ ⟨1735689610, 0, by decide⟩) job =
        some asked ∧
      asked ∈ (⟨⟨1735689600, 0, by decide⟩, ⟨1735689610, 0, by decide⟩⟩ : RecoveryWindow) := by
  obtain ⟨job, hjob⟩ : ∃ job, build "r1" "staging" "c2" (exampleLogged ⟨1735689600, 0, by decide⟩
      ⟨1735689610, 0, by decide⟩) ⟨1735689605, 500000000, by decide⟩ "s3" = Except.ok job :=
    exists_build_of_destination _ _ _ _ _ ⟨_, rfl⟩
  obtain ⟨asked, hasked, hiff⟩ := askedFor_mem_iff
    (w := ⟨⟨1735689600, 0, by decide⟩, ⟨1735689610, 0, by decide⟩⟩) rfl (by decide) hjob
  exact ⟨job, asked, hjob, hasked, hiff.mpr (Or.inr (by decide))⟩

/-- A backup that was completed within a second, and an instant later in that second. -/
theorem askedFor_before_completion :
    ¬ ∀ (name scope cluster storageName : String) (backup : BackupRecord) (w : RecoveryWindow)
        (t asked : Instant) (job : Restore), backup.window = Except.ok w → t ∈ w →
      build name scope cluster backup t storageName = Except.ok job →
      askedFor? backup job = some asked → asked ∈ w := by
  intro hall
  obtain ⟨job, hjob⟩ : ∃ job, build "r1" "staging" "c2"
      (exampleLogged ⟨1735689600, 500000000, by decide⟩ ⟨1735689610, 0, by decide⟩)
      ⟨1735689600, 700000000, by decide⟩ "s3" = Except.ok job :=
    exists_build_of_destination _ _ _ _ _ ⟨_, rfl⟩
  have hmem := hall _ _ _ _ _
    ⟨⟨1735689600, 500000000, by decide⟩, ⟨1735689610, 0, by decide⟩⟩ _ _ job rfl (by decide) hjob
    (askedFor?_of_build hjob)
  exact absurd hmem (by decide)

end Job
end PointInTime
