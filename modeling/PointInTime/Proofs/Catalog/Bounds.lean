import PointInTime.Proofs.Catalog.Window
import PointInTime.Proofs.Instant.Given

/-!
# The ends of a window as people see them

The ends of a window are shown in whole seconds, in listings and where an instant is refused, and
compared as they are.  What was shown and is given back has lost its fraction, and so it may lie
before the window.

Main statement: the first end is accepted exactly if the backup was completed at a whole second,
and the last one exactly if its second begins within the window.
-/

namespace PointInTime

/-- Only what begins with its second is not before the second. -/
theorem Instant.le_truncate_iff {t : Instant} : t ≤ t.truncate ↔ t.truncate = t := by
  constructor
  · intro hle
    exact Instant.le_antisymm t.truncate_le hle
  · intro hwhole
    rw [hwhole]
    exact Instant.le_refl t

namespace BackupRecord

variable {r : BackupRecord} {w : RecoveryWindow} {t completion : Instant}

/-!
## What is accepted
-/

/-- A text that is given as the instant of a restore is read, and lies in the window. -/
def Accepts (r : BackupRecord) (text : String) : Prop :=
  ∃ t w, Instant.parse text = Except.ok t ∧ r.checkInstant t = Except.ok w

theorem checkInstant_of_window (hw : r.window? = some w) (t : Instant) :
    r.checkInstant t =
      if t ∈ w then Except.ok w else Except.error (.outOfRange t w.earliest w.latest) := by
  unfold checkInstant
  rw [window_eq_ok_iff.mpr hw]
  show (w.check t >>= fun _ => pure w) = _
  unfold RecoveryWindow.check
  split <;> rfl

theorem accepts_format_iff (hw : r.window? = some w) :
    r.Accepts t.format ↔ t.truncate ∈ w := by
  unfold Accepts
  simp only [Instant.parse_format, checkInstant_of_window hw]
  constructor
  · rintro ⟨_, w', ⟨⟩, hchecked⟩
    split at hchecked
    · assumption
    · cases hchecked
  · intro hmem
    exact ⟨t.truncate, w, rfl, if_pos hmem⟩

theorem accepts_earliest_iff (hw : r.window? = some w) :
    r.Accepts w.earliest.format ↔ w.earliest.truncate = w.earliest := by
  have hbefore : w.earliest.truncate ≤ w.latest :=
    Instant.le_trans w.earliest.truncate_le (window?_eq_some hw).2
  rw [accepts_format_iff hw, RecoveryWindow.mem_iff, Instant.le_truncate_iff]
  exact and_iff_left hbefore

theorem accepts_latest_iff (hw : r.window? = some w) :
    r.Accepts w.latest.format ↔ w.earliest ≤ w.latest.truncate := by
  rw [accepts_format_iff hw, RecoveryWindow.mem_iff]
  exact and_iff_left w.latest.truncate_le

/-!
## What is shown
-/

/-- The texts for the ends of the window: they stand in the listing, and again in what is said to
an instant that is refused. -/
structure Shows (r : BackupRecord) (first last : String) : Prop where
  start_eq : (BackupListing.ofRecord r).toJson.field? "windowStart" = some (.str first)
  end_eq : (BackupListing.ofRecord r).toJson.field? "windowEnd" = some (.str last)
  refusal_eq : ∀ t e, r.checkInstant t = Except.error e →
    e.message = "recovery instant " ++ t.format ++ " is outside the recovery window [" ++ first ++
      ", " ++ last ++ "]"

theorem shows_ends (heligible : r.isEligible = true) (hw : r.window? = some w) :
    r.Shows w.earliest.format w.latest.format := by
  have hlisted : (BackupListing.ofRecord r).window = some w := by
    show (if r.isEligible then r.window? else none) = some w
    rw [heligible, if_pos rfl, hw]
  constructor
  · simp [BackupListing.toJson, jsonFields, Json.field?, Assoc.find?, hlisted,
      Instant.optionalJson, Instant.shownJson]
  · simp [BackupListing.toJson, jsonFields, Json.field?, Assoc.find?, hlisted,
      Instant.optionalJson, Instant.shownJson]
  · intro t e he
    rw [checkInstant_of_window hw] at he
    split at he
    · cases he
    · cases he
      rfl

theorem window?_of_no_logs (hw : r.window? = some w) (hlogs : r.pointInTimeWindow? = none) :
    w.latest = w.earliest := by
  unfold window? at hw
  rw [hlogs, Option.none_or] at hw
  rcases Option.map_eq_some_iff.mp hw with ⟨_, _, rfl⟩
  rfl

/-- A completion at a whole second is enough for both ends, and it is needed for the first one;
without logs the two are the same. -/
theorem shown_ends_accepted_iff (heligible : r.isEligible = true)
    (hcompleted : r.completedAt = some completion) :
    ∃ w first last, r.window? = some w ∧ r.Shows first last ∧
      (r.Accepts first ↔ completion.truncate = completion) ∧
      (r.Accepts last ↔ completion ≤ w.latest.truncate) ∧
      (completion.truncate = completion → r.Accepts first ∧ r.Accepts last) ∧
      (r.pointInTimeWindow? = none → last = first) := by
  rcases exists_window?_of_completedAt hcompleted with ⟨w, hw, _⟩
  rcases window?_eq_some hw with ⟨hearliest, hordered⟩
  rw [hcompleted] at hearliest
  cases hearliest
  have hfirst := accepts_earliest_iff hw
  have hlast := accepts_latest_iff hw
  refine ⟨w, _, _, hw, shows_ends heligible hw, hfirst, hlast, ?_, ?_⟩
  · intro hwhole
    have hseconds := Instant.truncate_le_truncate hordered
    rw [hwhole] at hseconds
    exact ⟨hfirst.mpr hwhole, hlast.mpr hseconds⟩
  · intro hlogs
    rw [window?_of_no_logs hw hlogs]

/-!
### Two completions in one second
-/

/-- A backup of a cluster that archives no logs. -/
def unarchived (completion : Instant) : BackupRecord where
  name := "b1"
  cluster := "c1"
  state := .succeeded
  completedAt := some completion
  destination := some "s3://b/b1"
  storageName := some "s3"
  archivesLogs := false
  latestRestorableTime := none

def midnight : Instant :=
  ⟨1735689600, 0, by decide⟩

def pastMidnight : Instant :=
  ⟨1735689600, 500000000, by decide⟩

theorem shown_midnight_accepted :
    (unarchived midnight).Shows "2025-01-01 00:00:00" "2025-01-01 00:00:00" ∧
      (unarchived midnight).Accepts "2025-01-01 00:00:00" := by
  have heligible : (unarchived midnight).isEligible = true := rfl
  have hcompleted : (unarchived midnight).completedAt = some midnight := rfl
  rcases shown_ends_accepted_iff heligible hcompleted with
    ⟨_, first, last, _, hshown, _, _, haccepted, hsame⟩
  cases hsame rfl
  have hwindow : (unarchived midnight).window? = some (.point midnight) := rfl
  have hstart := hshown.start_eq.symm.trans (shows_ends heligible hwindow).start_eq
  have hfirst : first = midnight.format := Json.str.inj (Option.some.inj hstart)
  have htext : midnight.format = "2025-01-01 00:00:00" := by
    decide +kernel
  rw [hfirst, htext] at hshown haccepted
  exact ⟨hshown, (haccepted (by decide)).1⟩

/-- The backup was completed half a second after the instant that is shown for it. -/
theorem shown_end_refused_past_midnight :
    ¬ ∀ (r : BackupRecord) (completion : Instant), r.isEligible = true →
      r.completedAt = some completion → ∀ first last, r.Shows first last →
        r.Accepts first ∧ r.Accepts last := by
  intro hall
  have hwindow : (unarchived pastMidnight).window? = some (.point pastMidnight) := rfl
  have hshown := shows_ends (r := unarchived pastMidnight) rfl hwindow
  have haccepted := (hall _ pastMidnight rfl rfl _ _ hshown).1
  rw [accepts_earliest_iff hwindow] at haccepted
  exact absurd haccepted (by decide)

end BackupRecord
end PointInTime
