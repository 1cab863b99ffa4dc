import PointInTime.Proofs.Procedure.Rounds
import PointInTime.Proofs.Restore.Awaiting

/-!
# The readings of a wait

A wait reads its job at every interval and once more when the time is up.  A reading decides it, or
the next one is waited for, and the state that was read last is what a wait without a decision ends
with.

Main statement: the readings of a job alone say how a wait ends, with which reading and when.
-/

namespace PointInTime

open Procedure (Chronicle chronicle resultAfter rounds run stateAfter)

namespace Job

variable {scope job : String} {seen : RestoreState} {x : Except Error (Option Restore)}

/-!
## What a reading decides
-/

/-- A reading and the end of a wait that it decides on. -/
inductive Decides (scope job : String) :
    Except Error (Option Restore) → Except Error Outcome → Prop where
  | succeeded {r : Restore} :
      r.state = .succeeded → Decides scope job (.ok (some r)) (.ok .succeeded)
  | failed {r : Restore} :
      r.state = .failed ∨ r.state = .error →
        Decides scope job (.ok (some r)) (.ok (.failed r.state (r.status.bind (·.comments))))
  | missing : Decides scope job (.ok none) (.error (.missing "restore job" job scope))
  | refused {e : Error} : e.isRetryable = false → Decides scope job (.error e) (.error e)

def IsDecisive (scope job : String) (x : Except Error (Option Restore)) : Prop :=
  ∃ outcome, Decides scope job x outcome

theorem judge_of_decides {outcome : Except Error Outcome} (h : Decides scope job x outcome) :
    judge scope job seen x = .inl outcome := by
  cases h with
  | succeeded hstate => simp only [judge, hstate]
  | failed hstate =>
      rcases hstate with hfailed | herror
      · simp only [judge, hfailed]
      · simp only [judge, herror]
  | missing => rfl
  | refused he => simp [judge, he]

/-- The state that a reading shows, if the job could be read. -/
def shown? : Except Error (Option Restore) → Option RestoreState
  | .ok (some r) => some r.state
  | _ => none

/-- A reading that decides nothing leaves the state that it shows, or else the one from before. -/
theorem judge_of_not_isDecisive (h : ¬ IsDecisive scope job x) :
    judge scope job seen x = .inr ((shown? x).getD seen) := by
  match x with
  | .ok (some r) =>
      cases hstate : r.state with
      | succeeded => exact absurd ⟨_, Decides.succeeded hstate⟩ h
      | failed => exact absurd ⟨_, Decides.failed (Or.inl hstate)⟩ h
      | error => exact absurd ⟨_, Decides.failed (Or.inr hstate)⟩ h
      | starting => simp [judge, shown?, hstate]
      | running => simp [judge, shown?, hstate]
      | unknown raw => simp [judge, shown?, hstate]
  | .ok none => exact absurd ⟨_, Decides.missing⟩ h
  | .error e =>
      cases hretryable : e.isRetryable with
      | false => exact absurd ⟨_, Decides.refused hretryable⟩ h
      | true => simp [judge, shown?, hretryable]

theorem not_isDecisive_of_not_isTerminal {r : Restore} (h : r.state.isTerminal = false) :
    ¬ IsDecisive scope job (.ok (some r)) := by
  intro hdecisive
  rcases hdecisive with ⟨outcome, hdecides⟩
  cases hdecides with
  | succeeded hstate =>
      rw [hstate] at h
      cases h
  | failed hstate =>
      rcases hstate with hfailed | herror
      · rw [hfailed] at h
        cases h
      · rw [herror] at h
        cases h

theorem not_isDecisive_of_isRetryable {e : Error} (h : e.isRetryable = true) :
    ¬ IsDecisive scope job (.error e) := by
  intro hdecisive
  rcases hdecisive with ⟨outcome, hdecides⟩
  cases hdecides with
  | refused he => simp [h] at he

/-!
## The state that was read last
-/

/-- The state that the last of some readings shows that shows one at all. -/
def lastShown (reading : Nat → Except Error (Option Restore)) (n : Nat) : RestoreState :=
  (((List.range n).filterMap fun j => shown? (reading j)).getLast?).getD .starting

theorem lastShown_succ (reading : Nat → Except Error (Option Restore)) (n : Nat) :
    lastShown reading (n + 1) = (shown? (reading n)).getD (lastShown reading n) := by
  cases hshown : shown? (reading n) with
  | none => simp [lastShown, List.range_succ, List.filterMap_append, hshown]
  | some state => simp [lastShown, List.range_succ, List.filterMap_append, hshown]

/-!
## A wait by its readings
-/

section

variable {σ : Type} {answer : (r : Demand) → σ → Demand.Answer r × σ}
variable {interval timeout : Duration} {t : Nat} {s : σ}

/-- What a job is read as after it was read a number of times. -/
def reading (answer : (r : Demand) → σ → Demand.Answer r × σ) (scope job : String) (s : σ)
    (n : Nat) : Except Error (Option Restore) :=
  resultAfter (I := Server) answer (Operation.getRestore scope job).run s n

/-- The readings of a job at every interval, the last of them no later than the time is up. -/
def readings (answer : (r : Demand) → σ → Demand.Answer r × σ) (scope job : String)
    (interval timeout : Duration) (t : Nat) (s : σ) (n : Nat) : Chronicle Server :=
  (List.range n).map fun j =>
    (t + min (j * interval.millis) timeout.millis,
      ⟨.server (.getRestore scope job), reading answer scope job s j⟩)

/-- A wait that reads its job a number of times, and then ends after a time. -/
structure WaitsFor (answer : (r : Demand) → σ → Demand.Answer r × σ) (scope job : String)
    (interval timeout : Duration) (t : Nat) (s : σ) (reads waited : Nat)
    (outcome : Except Error Outcome) : Prop where
  outcome_eq : (run answer (await scope job interval timeout).run ⟨t, none⟩ s).1 = outcome
  clock_eq :
    (run answer (await scope job interval timeout).run ⟨t, none⟩ s).2.1 = ⟨t + waited, none⟩
  state_eq : (run answer (await scope job interval timeout).run ⟨t, none⟩ s).2.2 =
    stateAfter (I := Server) answer (Operation.getRestore scope job).run s reads
  reads_eq : chronicle answer (await scope job interval timeout).run ⟨t, none⟩ s =
    readings answer scope job interval timeout t s reads

theorem rounds_eq_readings (n : Nat) :
    rounds (I := Server) answer (Operation.getRestore scope job).run s
        (fun j => t + min (j * interval.millis) timeout.millis) n =
      readings answer scope job interval timeout t s n :=
  Procedure.rounds_request (I := Server) answer (Demand.server (.getRestore scope job)) s _ n

/-- What a wait makes of the end of following. -/
def endOf : Procedure.FollowEnd (Except Error Outcome) RestoreState → Except Error Outcome
  | .decided outcome => outcome
  | .expired lastState => .ok (.timedOut lastState)
  | .cancelled => .ok .cancelled

theorem await_run (scope job : String) (hi : 0 < interval.millis) (timeout : Duration) :
    (await scope job interval timeout).run =
      Procedure.bind
        (Procedure.followWithin interval (look scope job) .starting timeout.millis)
        fun ended => .done (endOf ended) := by
  have hlimit : (if interval.millis = 0 ∧ timeout.millis ≠ 0 then Procedure.endless
      else timeout.millis) = timeout.millis := if_neg fun hzero => by omega
  show Procedure.bind (Procedure.follow interval (look scope job) .starting timeout) _ = _
  rw [Procedure.follow, hlimit]
  congr 1
  funext ended
  cases ended <;> rfl

theorem waitsFor_of_followed (hi : 0 < interval.millis) {reads waited : Nat}
    {ended : Procedure.FollowEnd (Except Error Outcome) RestoreState}
    (hfollowed :
      run answer (Procedure.followWithin interval (look scope job) .starting timeout.millis)
          ⟨t, none⟩ s =
          (ended, ⟨t + waited, none⟩,
            stateAfter (I := Server) answer (Operation.getRestore scope job).run s reads) ∧
        chronicle answer (Procedure.followWithin interval (look scope job) .starting timeout.millis)
          ⟨t, none⟩ s =
          rounds (I := Server) answer (Operation.getRestore scope job).run s
            (fun j => t + min (j * interval.millis) timeout.millis) reads) :
    WaitsFor answer scope job interval timeout t s reads waited (endOf ended) := by
  rcases hfollowed with ⟨hrun, hlog⟩
  rw [rounds_eq_readings] at hlog
  constructor
  · rw [await_run scope job hi, Procedure.run_bind, hrun]
    rfl
  · rw [await_run scope job hi, Procedure.run_bind, hrun]
    rfl
  · rw [await_run scope job hi, Procedure.run_bind, hrun]
    rfl
  · rw [await_run scope job hi, Procedure.chronicle_bind, hrun, hlog]
    exact List.append_nil _

/-- A reading that is not decisive leaves the state that was read last. -/
theorem judge_reading {j : Nat} (h : ¬ IsDecisive scope job (reading answer scope job s j)) :
    judge scope job (lastShown (reading answer scope job s) j)
        (resultAfter (I := Server) answer (Operation.getRestore scope job).run s j) =
      .inr (lastShown (reading answer scope job s) (j + 1)) := by
  rw [lastShown_succ]
  exact judge_of_not_isDecisive h

theorem prompt_getRestore (scope job : String) :
    Procedure.Prompt (I := Server) (Operation.getRestore scope job).run :=
  Procedure.prompt_request (I := Server) (Demand.server (.getRestore scope job))

theorem waitsFor_of_decided (hi : 0 < interval.millis) (t : Nat) {k : Nat}
    (hk : k ≤ timeout.millis ⌈/⌉ interval.millis)
    (hbefore : ∀ j < k, ¬ IsDecisive scope job (reading answer scope job s j))
    {outcome : Except Error Outcome}
    (hdecides : Decides scope job (reading answer scope job s k) outcome) :
    WaitsFor answer scope job interval timeout t s (k + 1)
      (min (k * interval.millis) timeout.millis) outcome :=
  waitsFor_of_followed hi <|
    Procedure.followWithin_of_decided (I := Server) (fun _ => rfl) (prompt_getRestore scope job)
      hi hk (fun j hj => judge_reading (hbefore j hj)) (judge_of_decides hdecides)

theorem waitsFor_of_expired (hi : 0 < interval.millis) (t : Nat)
    (hnever : ∀ j ≤ timeout.millis ⌈/⌉ interval.millis,
      ¬ IsDecisive scope job (reading answer scope job s j)) :
    WaitsFor answer scope job interval timeout t s (timeout.millis ⌈/⌉ interval.millis + 1)
      timeout.millis
      (.ok (.timedOut
        (lastShown (reading answer scope job s) (timeout.millis ⌈/⌉ interval.millis + 1)))) :=
  waitsFor_of_followed hi <|
    Procedure.followWithin_of_expired (I := Server) (fun _ => rfl) (prompt_getRestore scope job)
      hi (fun j hj => judge_reading (hnever j hj))

/-- The first decisive reading within the time ends a wait, also one that is made just when the time
is up; without one, the state that was read last does.  A state that is not known and an error that
may pass are not decisive. -/
theorem await_ends_by_its_readings (answer : (r : Demand) → σ → Demand.Answer r × σ)
    (scope job : String) (interval timeout : Duration) (hi : 0 < interval.millis) (t : Nat)
    (s : σ) :
    (∀ k ≤ timeout.millis ⌈/⌉ interval.millis,
      (∀ j < k, ¬ IsDecisive scope job (reading answer scope job s j)) →
      ∀ outcome, Decides scope job (reading answer scope job s k) outcome →
        WaitsFor answer scope job interval timeout t s (k + 1)
          (min (k * interval.millis) timeout.millis) outcome) ∧
    ((∀ j ≤ timeout.millis ⌈/⌉ interval.millis,
        ¬ IsDecisive scope job (reading answer scope job s j)) →
      WaitsFor answer scope job interval timeout t s (timeout.millis ⌈/⌉ interval.millis + 1)
        timeout.millis
        (.ok (.timedOut
          (lastShown (reading answer scope job s) (timeout.millis ⌈/⌉ interval.millis + 1))))) ∧
    (∀ (r : Restore) (raw : String), r.state = .unknown raw →
      ¬ IsDecisive scope job (.ok (some r))) ∧
    ∀ e : Error, e.isRetryable = true → ¬ IsDecisive scope job (.error e) := by
  refine ⟨?decided, ?expired, ?unknown, ?retryable⟩
  case decided =>
    intro k hk hbefore outcome hdecides
    exact waitsFor_of_decided hi t hk hbefore hdecides
  case expired =>
    intro hnever
    exact waitsFor_of_expired hi t hnever
  case unknown =>
    intro r raw hstate
    exact not_isDecisive_of_not_isTerminal (by rw [hstate]; rfl)
  case retryable =>
    intro e hretryable
    exact not_isDecisive_of_isRetryable hretryable

end

/-!
## Readings that follow a script
-/

/-- A script gives every reading by the number of those before it; nothing else is answered. -/
def scriptedReadings (script : Nat → Except Error (Option Restore)) :
    (d : Demand) → Nat → d.Answer × Nat
  | .server (.getRestore _ _), n => (script n, n + 1)
  | .server _, n => (Except.error (.timeout "no answer"), n)
  | .stamp, n => (⟨.epoch, ""⟩, n)

theorem reading_scripted (script : Nat → Except Error (Option Restore)) (scope job : String)
    (n : Nat) : reading (scriptedReadings script) scope job 0 n = script n :=
  Procedure.resultAfter_of_counted (I := Server) (r := Demand.server (.getRestore scope job))
    (fun _ => rfl) n

def exampleJob (state : String) : Restore where
  metadata := { name := "job", scope := "prod" }
  spec := ⟨"db", none, none, none⟩
  status := some ⟨some state, none, none⟩

/-- A job that cannot be read at first, then runs, is in a state nobody knows and succeeds. -/
def lateSuccess : Nat → Except Error (Option Restore)
  | 0 => .error (.timeout "no answer")
  | 1 => .ok (some (exampleJob "Running"))
  | 2 => .ok (some (exampleJob "Paused"))
  | _ + 3 => .ok (some (exampleJob "Succeeded"))

/-- A success that is read just when the time is up counts; one interval earlier the wait ends with
the state that was read last. -/
theorem await_ends_by_late_success :
    WaitsFor (scriptedReadings lateSuccess) "prod" "job" ⟨10⟩ ⟨25⟩ 0 0 4 25 (.ok .succeeded) ∧
      WaitsFor (scriptedReadings lateSuccess) "prod" "job" ⟨10⟩ ⟨15⟩ 0 0 3 15
        (.ok (.timedOut (.unknown "Paused"))) := by
  have hbefore : ∀ j < 3, ¬ IsDecisive "prod" "job"
      (reading (scriptedReadings lateSuccess) "prod" "job" 0 j) := by
    intro j hj
    rw [reading_scripted]
    match j, hj with
    | 0, _ => exact not_isDecisive_of_isRetryable rfl
    | 1, _ => exact not_isDecisive_of_not_isTerminal (by decide)
    | 2, _ => exact not_isDecisive_of_not_isTerminal (by decide)
  have hsucceeded : Decides "prod" "job"
      (reading (scriptedReadings lateSuccess) "prod" "job" 0 3) (.ok .succeeded) := by
    rw [reading_scripted]
    exact Decides.succeeded rfl
  rcases await_ends_by_its_readings (scriptedReadings lateSuccess) "prod" "job" ⟨10⟩ ⟨25⟩
    (by decide) 0 0 with ⟨hdecided, _, _, _⟩
  rcases await_ends_by_its_readings (scriptedReadings lateSuccess) "prod" "job" ⟨10⟩ ⟨15⟩
    (by decide) 0 0 with ⟨_, hexpired, _, _⟩
  constructor
  · exact hdecided 3 (by decide) hbefore _ hsucceeded
  · exact hexpired fun j hj => hbefore j (Nat.lt_succ_of_le hj)

end Job
end PointInTime
