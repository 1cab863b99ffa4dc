import PointInTime.Proofs.Restore.Awaiting
import PointInTime.Proofs.Workflow.Submission

/-!
# The phases of an attended restore

Once its job is submitted, an attended restore waits for the job, waits for the cluster to serve,
and asks the databases.  Each phase is described by its course: what it asked for, when, and what
its end says of the answers.

Main statements: `lasts_awaitRestore`, `lasts_awaitReady` and `lasts_summary`.
-/

namespace PointInTime

open Operation

open Procedure (Chronicle Lasts)

namespace Workflow

variable {patience : Patience} {c c' : Clock} {log : Chronicle Server}

/-!
## Waiting for the job
-/

/-- The course of a wait for a job: readings, all of them in time, up to the one that decides or
that is the last. -/
structure Awaited (patience : Patience) (scope job : String) (c c' : Clock)
    (log : Chronicle Server) (outcome : Except Error Unit) (last : Nat × Exchange Server) :
    Prop where
  in_time : ∀ e ∈ log, e.1 ≤ c.now + patience.restoreTimeout.millis
  reads : Job.IsReading scope job last.2
  ends : ∃ earlier, log = earlier ++ [last] ∧ ∀ e ∈ earlier, Job.IsUndecided scope job e.2
  succeeded : outcome = .ok () → Job.IsSuccess scope job last.2 ∧ c'.now = last.1
  of_success : Job.IsSuccess scope job last.2 → outcome = .ok ()
  of_failure : Job.IsFailure scope job last.2 → ∃ m, outcome = .error (.externalFailure m)
  of_undecided : Job.IsUndecided scope job last.2 → c.cancelAt = none →
    ∃ m, outcome = .error (.timeout m)

section

variable {scope job : String} {outcome : Except Error Unit} {last e : Nat × Exchange Server}

theorem Awaited.isReading (h : Awaited patience scope job c c' log outcome last) (he : e ∈ log) :
    Job.IsReading scope job e.2 := by
  rcases h.ends with ⟨earlier, rfl, hearlier⟩
  rcases List.mem_append.mp he with hbefore | hlast
  · exact (hearlier e hbefore).isReading
  · rw [List.mem_singleton.mp hlast]
    exact h.reads

theorem Awaited.eq_last (h : Awaited patience scope job c c' log outcome last) (he : e ∈ log)
    (hdecided : ¬ Job.IsUndecided scope job e.2) : e = last := by
  rcases h.ends with ⟨earlier, rfl, hearlier⟩
  rcases List.mem_append.mp he with hbefore | hlast
  · exact absurd (hearlier e hbefore) hdecided
  · exact List.mem_singleton.mp hlast

theorem Awaited.last_mem (h : Awaited patience scope job c c' log outcome last) : last ∈ log := by
  rcases h.ends with ⟨earlier, rfl, _⟩
  exact List.mem_append_right _ (List.mem_singleton_self _)

theorem lasts_awaitRestore (h : 0 < patience.pollInterval.millis)
    (course : Lasts c (awaitRestore patience scope job).run log c' outcome) :
    ∃ last, Awaited patience scope job c c' log outcome last := by
  rcases lasts_bind_of course with ⟨first, hfirst, rfl⟩
  rcases Job.lasts_await h hfirst with ⟨t, x, seen, htimes, hrepeats, hend⟩
  refine ⟨(t, ⟨.server (.getRestore scope job), x⟩), ?_⟩
  constructor
  · exact htimes
  · exact ⟨x, rfl⟩
  · rcases hrepeats with ⟨earlier, hlog, hearlier⟩
    refine ⟨earlier, hlog, ?_⟩
    intro e he
    rcases hearlier e he with ⟨y, hy, hundecided⟩
    rw [hy]
    exact hundecided
  · intro hsucceeded
    cases hjudge : Job.judge scope job seen x with
    | inl decided =>
        rw [hjudge] at hend
        rcases hend with ⟨rfl, htime⟩
        cases first with
        | error e => cases hsucceeded
        | ok ending =>
            rw [Job.check_eq_ok_iff.mp hsucceeded] at hjudge
            exact ⟨Job.judge_eq_succeeded_iff.mp hjudge, htime⟩
    | inr after =>
        rw [hjudge] at hend
        rcases hend with rfl | ⟨rfl, _⟩
        · cases hsucceeded
        · cases hsucceeded
  · intro hsuccess
    rw [Job.judge_eq_succeeded_iff.mpr hsuccess] at hend
    rw [hend.1]
    rfl
  · intro hfailure
    rcases Job.judge_of_failure hfailure with ⟨state, comments, hjudge⟩
    rw [hjudge] at hend
    rw [hend.1]
    exact ⟨_, rfl⟩
  · intro hundecided hnever
    rcases (Job.judge_eq_inr_iff seen).mpr hundecided with ⟨after, hjudge⟩
    rw [hjudge] at hend
    rcases hend with rfl | ⟨_, hcancel⟩
    · exact ⟨_, rfl⟩
    · exact absurd hnever hcancel

end

/-!
## Waiting for the cluster
-/

/-- A cluster was read as one that serves. -/
def IsServing (scope cluster : String) (e : Exchange Server) : Prop :=
  ∃ c : Cluster, e = ⟨.server (.getCluster scope cluster), Except.ok (some c)⟩ ∧ c.isReady = true

/-- What is neither a submission nor a reading of a job. -/
def LeavesJobs : Demand → Prop
  | .server (.createRestore _) => False
  | .server (.getRestore _ _) => False
  | _ => True

theorem LeavesJobs.sparing {d : Demand} (hd : LeavesJobs d) (h : History Server) :
    Sparing h d := by
  cases d with
  | stamp => trivial
  | server r =>
      cases r with
      | createRestore job => exact hd.elim
      | _ => rfl

theorem LeavesJobs.not_isReading {scope job : String} {e : Exchange Server}
    (h : LeavesJobs e.1) : ¬ Job.IsReading scope job e := by
  intro hreading
  rcases hreading with ⟨x, rfl⟩
  exact h

/-- Whether a look at a cluster ends the wait for it. -/
def sawReady : Except Error (Option Cluster) → Bool
  | .ok found => found.any (·.isReady)
  | .error _ => false

theorem isServing_of_sawReady {scope cluster : String} {x : Except Error (Option Cluster)}
    (h : sawReady x = true) : IsServing scope cluster ⟨.server (.getCluster scope cluster), x⟩ := by
  cases x with
  | error e => cases h
  | ok found =>
      cases found with
      | none => cases h
      | some c => exact ⟨c, rfl, h⟩

theorem holds_serves (scope cluster : String) :
    Procedure.holds (serves scope cluster).run =
      .ask (.server (.getCluster scope cluster)) fun x => .done (sawReady x) := by
  apply congrArg (Procedure.ask _)
  funext x
  cases x with
  | ok found => rfl
  | error e => rfl

/-- A wait for a cluster looks at it, and gives up in time if it has not seen it ready. -/
theorem lasts_awaitReady {scope cluster : String} {outcome : Except Error Unit}
    (h : 0 < patience.pollInterval.millis)
    (course : Lasts c (awaitReady patience scope cluster).run log c' outcome) :
    (∀ e ∈ log, LeavesJobs e.2.1 ∧ e.1 ≤ c.now + patience.readyTimeout.millis) ∧
      (c.cancelAt = none → (∀ e ∈ log, ¬ IsServing scope cluster e.2) →
        ∃ m, outcome = .error (.timeout m)) := by
  have hlimit : (if patience.pollInterval.millis = 0 then Procedure.endless
      else patience.readyTimeout.millis) = patience.readyTimeout.millis := if_neg (Nat.ne_of_gt h)
  rcases Procedure.lasts_bind course with ⟨ending, polled, _, middle, rfl, hpoll, hrest⟩
  cases hrest
  rw [List.append_nil]
  unfold Procedure.poll at hpoll
  rw [hlimit] at hpoll
  rcases Procedure.lasts_pollWithin (holds_serves scope cluster) hpoll with
    ⟨t, x, hrepeats, htimes, hend⟩
  constructor
  · intro e he
    rcases hrepeats.forall_eq e he with ⟨y, hy⟩
    rw [hy]
    exact ⟨trivial, htimes e he⟩
  · intro hnever hunready
    rcases hend with ⟨_, hready⟩ | ⟨_, rfl | ⟨_, hcancel⟩⟩
    · rcases hrepeats with ⟨earlier, rfl, _⟩
      have hserving : IsServing scope cluster ⟨.server (.getCluster scope cluster), x⟩ :=
        isServing_of_sawReady hready
      exact absurd hserving (hunready _ (List.mem_append_right _ (List.mem_singleton_self _)))
    · exact ⟨_, rfl⟩
    · exact absurd hnever hcancel

/-!
## Asking the databases
-/

/-- The databases of a cluster were asked, in the pod of the cluster, and gave an output. -/
def asked (scope cluster output : String) : Exchange Server :=
  ⟨.server (.exec scope (DatabaseSummary.pod cluster) DatabaseSummary.container
    DatabaseSummary.command), Except.ok output⟩

theorem lasts_existingCluster {scope cluster : String} {outcome : Except Error Cluster}
    (course : Lasts c (existingCluster scope cluster).run log c' outcome) :
    c' = c ∧ ∃ x : Except Error (Option Cluster),
      log = [(c.now, ⟨.server (.getCluster scope cluster), x⟩)] ∧
        ∀ definition, outcome = .ok definition → x = .ok (some definition) := by
  rcases Operation.lasts_bind course with
    ⟨e, rfl, hread⟩ | ⟨found, read, rest, middle, rfl, hread, hrest⟩
  · rcases Operation.lasts_send hread with ⟨rfl, rfl⟩
    exact ⟨rfl, _, rfl, fun _ h => nomatch h⟩
  · rcases Operation.lasts_send hread with ⟨rfl, rfl⟩
    cases found with
    | none =>
        cases hrest
        exact ⟨rfl, _, rfl, fun _ h => nomatch h⟩
    | some definition =>
        cases hrest
        refine ⟨rfl, _, rfl, ?_⟩
        intro definition' hdefinition
        cases hdefinition
        rfl

theorem summary_eq (scope cluster : String) :
    summary scope cluster =
      existingCluster scope cluster >>= fun definition =>
        if definition.isReady then
          (Procedure.retryLimited {} RetryPolicy.maxAttempts_default_pos
            (Operation.exec scope (DatabaseSummary.pod cluster) DatabaseSummary.container
              DatabaseSummary.command) : Operation String) >>= fun output =>
              Operation.of (DatabaseSummary.parse cluster output)
        else throw (notReady scope cluster definition) := by
  unfold summary
  congr 1
  funext definition
  cases definition.isReady with
  | true => rfl
  | false => rfl

theorem lasts_summary {scope cluster : String} {outcome : Except Error DatabaseSummary}
    (course : Lasts c (summary scope cluster).run log c' outcome) :
    (∀ e ∈ log, LeavesJobs e.2.1) ∧
      ∀ databases, outcome = .ok databases →
        ∃ ready queries query output, log = ready :: queries ++ [query] ∧
          IsServing scope cluster ready.2 ∧ query.2 = asked scope cluster output ∧
          DatabaseSummary.parse cluster output = .ok databases := by
  rw [summary_eq] at course
  rcases Operation.lasts_bind course with
    ⟨e, rfl, hread⟩ | ⟨definition, read, rest, middle, rfl, hread, hrest⟩
  · rcases lasts_existingCluster hread with ⟨_, x, rfl, _⟩
    refine ⟨?_, fun _ h => nomatch h⟩
    intro e he
    rw [List.mem_singleton.mp he]
    trivial
  · rcases lasts_existingCluster hread with ⟨_, x, rfl, hfound⟩
    rw [hfound definition rfl]
    cases hready : definition.isReady with
    | false =>
        rw [hready] at hrest
        cases hrest
        refine ⟨?_, fun _ h => nomatch h⟩
        intro e he
        rw [List.mem_singleton.mp he]
        trivial
    | true =>
        rw [hready, if_pos rfl] at hrest
        rcases lasts_bind_of hrest with ⟨answer, hretry, rfl⟩
        rcases lasts_retryLimited hretry with ⟨t, hrepeats⟩
        constructor
        · intro e he
          rcases List.mem_cons.mp he with rfl | hlater
          · trivial
          · rcases hrepeats.forall_eq e hlater with ⟨z, hz⟩
            rw [hz]
            trivial
        · intro databases hdatabases
          rcases hrepeats with ⟨queries, rfl, _⟩
          cases answer with
          | error e => cases hdatabases
          | ok output =>
              exact ⟨_, queries, _, output, rfl, ⟨definition, rfl, hready⟩, rfl, hdatabases⟩

end Workflow
end PointInTime
