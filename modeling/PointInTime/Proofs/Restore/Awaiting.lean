import PointInTime.Proofs.Restore.Job

/-!
# Waiting for a job

A reading of a job decides a wait, or it leaves it undecided: the job goes on, or it could not be
read for a reason that may pass.

Main statement: `lasts_await`.  A wait reads the job until it is decided or the time is up, and its
last reading alone says how it ended.
-/

namespace PointInTime

open Procedure (Chronicle Lasts Repeats)

namespace Job

/-!
## Readings of a job
-/

variable {scope job : String} {seen : RestoreState} {x : Except Error (Option Restore)}
variable {e : Exchange Server} {c c' : Clock} {log : Chronicle Server}

/-- A job was read as one that has failed. -/
def IsFailure (scope job : String) (e : Exchange Server) : Prop :=
  ∃ r : Restore, e = ⟨.server (.getRestore scope job), Except.ok (some r)⟩ ∧
    (r.state = .failed ∨ r.state = .error)

/-- A job was read as one that goes on, or it could not be read for a reason that may pass. -/
def IsUndecided (scope job : String) (e : Exchange Server) : Prop :=
  (∃ r : Restore, e = ⟨.server (.getRestore scope job), Except.ok (some r)⟩ ∧
      r.state.isTerminal = false) ∨
    ∃ reason : Error, e = ⟨.server (.getRestore scope job), Except.error reason⟩ ∧
      reason.isRetryable = true

/-- A job that is not at its end is its own state to go on with. -/
theorem judge_of_not_isTerminal {r : Restore} (h : r.state.isTerminal = false) :
    judge scope job seen (Except.ok (some r)) = .inr r.state := by
  cases hstate : r.state with
  | starting => simp only [judge, hstate]
  | running => simp only [judge, hstate]
  | unknown raw => simp only [judge, hstate]
  | succeeded => simp [hstate, RestoreState.isTerminal] at h
  | failed => simp [hstate, RestoreState.isTerminal] at h
  | error => simp [hstate, RestoreState.isTerminal] at h

theorem judge_of_failure (hfailure : IsFailure scope job ⟨.server (.getRestore scope job), x⟩) :
    ∃ state comments, judge scope job seen x = .inl (Except.ok (.failed state comments)) := by
  rcases hfailure with ⟨r, hread, hstate⟩
  cases hread
  refine ⟨r.state, r.status.bind (·.comments), ?_⟩
  rcases hstate with hfailed | herror
  · simp only [judge, hfailed]
  · simp only [judge, herror]

theorem judge_eq_inr_iff (seen : RestoreState) :
    (∃ after, judge scope job seen x = .inr after) ↔
      IsUndecided scope job ⟨.server (.getRestore scope job), x⟩ := by
  constructor
  · intro hjudge
    rcases hjudge with ⟨after, hjudge⟩
    unfold judge at hjudge
    split at hjudge
    · rename_i r
      refine Or.inl ⟨r, rfl, ?_⟩
      cases hstate : r.state with
      | starting => rfl
      | running => rfl
      | unknown raw => rfl
      | succeeded => simp [hstate] at hjudge
      | failed => simp [hstate] at hjudge
      | error => simp [hstate] at hjudge
    · cases hjudge
    · rename_i reason
      refine Or.inr ⟨reason, rfl, ?_⟩
      split at hjudge
      · assumption
      · cases hjudge
  · intro hundecided
    rcases hundecided with ⟨r, hread, hstate⟩ | ⟨reason, hread, hretryable⟩
    · cases hread
      exact ⟨r.state, judge_of_not_isTerminal hstate⟩
    · cases hread
      exact ⟨seen, if_pos hretryable⟩

theorem IsSuccess.isReading (h : IsSuccess scope job e) : IsReading scope job e := by
  rcases h with ⟨r, hread, _⟩
  exact ⟨_, hread⟩

theorem IsFailure.isReading (h : IsFailure scope job e) : IsReading scope job e := by
  rcases h with ⟨r, hread, _⟩
  exact ⟨_, hread⟩

theorem IsUndecided.isReading (h : IsUndecided scope job e) : IsReading scope job e := by
  rcases h with ⟨r, hread, _⟩ | ⟨reason, hread, _⟩
  · exact ⟨_, hread⟩
  · exact ⟨_, hread⟩

theorem IsUndecided.not_isSuccess (h : IsUndecided scope job e) : ¬ IsSuccess scope job e := by
  intro hsuccess
  rcases hsuccess with ⟨r, rfl, hstate⟩
  rcases (judge_eq_inr_iff .starting).mpr h with ⟨after, hjudge⟩
  rw [judge_eq_succeeded_iff.mpr ⟨r, rfl, hstate⟩] at hjudge
  cases hjudge

theorem IsUndecided.not_isFailure (h : IsUndecided scope job e) : ¬ IsFailure scope job e := by
  intro hfailure
  rcases hfailure with ⟨r, rfl, hstate⟩
  rcases (judge_eq_inr_iff .starting).mpr h with ⟨after, hjudge⟩
  rcases judge_of_failure ⟨r, rfl, hstate⟩ with ⟨state, comments, hfailed⟩
  rw [hfailed] at hjudge
  cases hjudge

theorem check_eq_ok_iff {outcome : Outcome} :
    outcome.check job = Except.ok () ↔ outcome = .succeeded := by
  cases outcome <;> simp [Outcome.check]

/-!
## The course of a wait
-/

/-- A wait for a job reads it again as long as it is undecided, and its last reading decides, unless
the time is up. -/
theorem lasts_await {interval timeout : Duration} {outcome : Except Error Outcome}
    (h : 0 < interval.millis)
    (course : Lasts c (await scope job interval timeout).run log c' outcome) :
    ∃ t x seen, (∀ e ∈ log, e.1 ≤ c.now + timeout.millis) ∧
      Repeats (I := Server) (.server (.getRestore scope job))
        (fun y => IsUndecided scope job ⟨.server (.getRestore scope job), y⟩) log t x ∧
      match judge scope job seen x with
      | .inl decided => outcome = decided ∧ c'.now = t
      | .inr after =>
          outcome = .ok (.timedOut after) ∨ outcome = .ok .cancelled ∧ c.cancelAt ≠ none := by
  have hlimit : (if interval.millis = 0 ∧ timeout.millis ≠ 0 then Procedure.endless
      else timeout.millis) = timeout.millis := if_neg fun hzero => by omega
  rcases Procedure.lasts_bind course with
    ⟨ending, followed, rest, middle, rfl, hfollow, hrest⟩
  unfold Procedure.follow at hfollow
  rw [hlimit] at hfollow
  rcases Procedure.lasts_followWithin (fun _ => rfl) hfollow with
    ⟨t, x, seen, hrepeats, htimes, hend⟩
  -- what follows the readings asks for nothing
  have hends : rest = [] ∧ c' = middle := by
    cases ending with
    | decided _ => cases hrest; exact ⟨rfl, rfl⟩
    | expired _ => cases hrest; exact ⟨rfl, rfl⟩
    | cancelled => cases hrest; exact ⟨rfl, rfl⟩
  rcases hends with ⟨rfl, rfl⟩
  rw [List.append_nil]
  refine ⟨t, x, seen, htimes, hrepeats.mono ?_, ?_⟩
  · intro y hy
    rcases hy with ⟨before, after, hjudge⟩
    exact (judge_eq_inr_iff before).mp ⟨after, hjudge⟩
  · cases hjudge : judge scope job seen x with
    | inl decided =>
        rw [hjudge] at hend
        rcases hend with ⟨rfl, htime⟩
        cases hrest
        exact ⟨rfl, htime⟩
    | inr after =>
        rw [hjudge] at hend
        rcases hend with rfl | ⟨rfl, hcancel⟩
        · cases hrest
          exact Or.inl rfl
        · cases hrest
          exact Or.inr ⟨rfl, hcancel⟩

end Job
end PointInTime
