import PointInTime.Proofs.Workflow.Phases

/-!
# What an attended restore reports

An attended restore that succeeds has submitted one job, read it as succeeded, then seen its cluster
serve, and then asked its databases for the summary.  A job that fails is reported as an external
failure, and a job or a cluster that is not there in time as a timeout.

Main statement, for all answers: a run ends as its phases say.  They follow each other on one clock,
and what one of them passes over never leads into the next one.
-/

namespace PointInTime

open Operation

open Procedure (Chronicle Lasts)

namespace Workflow

variable {patience : Patience} {c c' : Clock} {log : Chronicle Server}

/-- What is left of an attended restore once its job has succeeded. -/
def attendCluster (patience : Patience) (s : Submission) : Operation Report := do
  awaitReady patience s.scope s.cluster
  let databases ← summary s.scope s.cluster
  return ⟨s, databases⟩

/-- What is left of an attended restore once its job is submitted. -/
def attend (patience : Patience) (s : Submission) : Operation Report := do
  awaitRestore patience s.scope s.job
  attendCluster patience s

theorem run_eq (patience : Patience) (o : RestoreOptions) :
    run patience o = execute o >>= attend patience := rfl

/-!
## What is reported
-/

/-- The cluster of a restore was seen to serve, and after that its databases gave the summary. -/
def HasAnswered (log : Chronicle Server) (report : Report) : Prop :=
  ∃ checks ready queries query output, log = checks ++ ready :: queries ++ [query] ∧
    IsServing report.submission.scope report.submission.cluster ready.2 ∧
    query.2 = asked report.submission.scope report.submission.cluster output ∧
    DatabaseSummary.parse report.submission.cluster output = .ok report.summary

/-- The job of a restore was read as succeeded, and after that the cluster answered. -/
def HasFinished (log : Chronicle Server) (report : Report) : Prop :=
  ∃ reads success rest, log = reads ++ success :: rest ∧
    Job.IsSuccess report.submission.scope report.submission.job success.2 ∧
    HasAnswered rest report

/-- One job was submitted, for a cluster that had been created before, and it was seen through. -/
def HasRestored (log : Chronicle Server) (report : Report) : Prop :=
  ∃ before t job after, log = before ++ (t, created job) :: after ∧
    Spared (before.map Prod.snd) ∧ Spared (after.map Prod.snd) ∧
    HasCreated (before.map Prod.snd) report.submission.scope report.submission.cluster ∧
    report.submission.Names job ∧ HasFinished after report

/-- The end of a restore that was not cancelled tells what became of its job and its cluster. -/
structure Truthful (patience : Patience) (start : Nat) (scope job cluster : String)
    (log : Chronicle Server) (outcome : Except Error Report) : Prop where
  failed : (∃ e ∈ log, Job.IsFailure scope job e.2) → ∃ m, outcome = .error (.externalFailure m)
  undecided : (∀ e ∈ log, e.1 ≤ start + patience.restoreTimeout.millis →
      Job.IsReading scope job e.2 → Job.IsUndecided scope job e.2) →
    ∃ m, outcome = .error (.timeout m)
  never_ready : ∀ reads success rest, log = reads ++ success :: rest →
    Job.IsSuccess scope job success.2 →
    (∀ e ∈ rest, e.1 ≤ success.1 + patience.readyTimeout.millis →
      ¬ IsServing scope cluster e.2) →
    ∃ m, outcome = .error (.timeout m)

/-!
## Attending
-/

variable {s : Submission} {outcome : Except Error Report}

theorem lasts_attendCluster (h : 0 < patience.pollInterval.millis)
    (course : Lasts c (attendCluster patience s).run log c' outcome) :
    (∀ e ∈ log, LeavesJobs e.2.1) ∧
      (∀ report, outcome = .ok report → report.submission = s ∧ HasAnswered log report) ∧
      (c.cancelAt = none →
        (∀ e ∈ log, e.1 ≤ c.now + patience.readyTimeout.millis →
          ¬ IsServing s.scope s.cluster e.2) →
        ∃ m, outcome = .error (.timeout m)) := by
  rcases Operation.lasts_bind course with
    ⟨e, rfl, hawait⟩ | ⟨_, checks, rest, middle, rfl, hawait, hrest⟩
  · rcases lasts_awaitReady h hawait with ⟨hlog, htimeout⟩
    refine ⟨fun e he => (hlog e he).1, ?_, ?_⟩
    · intro report hreport
      cases hreport
    · intro hnever hunready
      rcases htimeout hnever fun e he => hunready e he (hlog e he).2 with ⟨m, hm⟩
      cases hm
      exact ⟨m, rfl⟩
  · rcases lasts_awaitReady h hawait with ⟨hlog, htimeout⟩
    rcases lasts_bind_of (f := fun databases => Except.ok (Report.mk s databases)) hrest with
      ⟨first, hsummary, rfl⟩
    rcases lasts_summary hsummary with ⟨hleaves, hfound⟩
    refine ⟨?_, ?_, ?_⟩
    · intro e he
      rcases List.mem_append.mp he with hcheck | hlater
      · exact (hlog e hcheck).1
      · exact hleaves e hlater
    · intro report hreport
      cases first with
      | error e => cases hreport
      | ok databases =>
          cases hreport
          rcases hfound databases rfl with ⟨ready, queries, query, output, rfl, hanswered⟩
          exact ⟨rfl, checks, ready, queries, query, output, by simp, hanswered⟩
    · intro hnever hunready
      rcases htimeout hnever fun e he =>
        hunready e (List.mem_append_left _ he) (hlog e he).2 with ⟨m, hm⟩
      cases hm

section

variable {scope job cluster : String} {awaited : Except Error Unit} {middle : Clock}
variable {reads rest : Chronicle Server} {last : Nat × Exchange Server}

theorem Awaited.spared (h : Awaited patience scope job c middle reads awaited last) :
    Spared (reads.map Prod.snd) := by
  rw [Spared, List.forall_mem_map]
  intro e he
  rcases h.isReading he with ⟨x, hx⟩
  rw [hx]
  rfl

/-- Nothing but the last reading of a wait can be its success. -/
theorem Awaited.eq_of_success (h : Awaited patience scope job c middle reads awaited last)
    (hleaves : ∀ e ∈ rest, LeavesJobs e.2.1) {before after : Chronicle Server}
    {success : Nat × Exchange Server} (hlog : reads ++ rest = before ++ success :: after)
    (hsuccess : Job.IsSuccess scope job success.2) : last = success ∧ rest = after := by
  rcases h.ends with ⟨earlier, rfl, hearlier⟩
  have hsplit : earlier ++ last :: rest = before ++ success :: after := by
    rw [← hlog]
    simp
  have hbefore : success ∉ earlier := fun hmem =>
    (hearlier success hmem).not_isSuccess hsuccess
  have hafter : success ∉ rest := fun hmem =>
    (hleaves success hmem).not_isReading hsuccess.isReading
  exact ((List.append_cons_inj_of_notMem hbefore hafter).mp hsplit).2

theorem Awaited.truthful (h : Awaited patience scope job c middle reads awaited last)
    (hleaves : ∀ e ∈ rest, LeavesJobs e.2.1) (hnever : c.cancelAt = none)
    (hfailed : ∀ e, awaited = .error e → outcome = .error e)
    (hunready : awaited = .ok () →
      (∀ e ∈ rest, e.1 ≤ middle.now + patience.readyTimeout.millis →
        ¬ IsServing scope cluster e.2) →
      ∃ m, outcome = .error (.timeout m)) :
    Truthful patience c.now scope job cluster (reads ++ rest) outcome := by
  constructor
  · intro hfailure
    rcases hfailure with ⟨e, he, hfailure⟩
    rcases List.mem_append.mp he with hread | hlater
    · rw [h.eq_last hread fun hundecided => hundecided.not_isFailure hfailure] at hfailure
      rcases h.of_failure hfailure with ⟨m, hm⟩
      exact ⟨m, hfailed _ hm⟩
    · exact absurd hfailure.isReading (hleaves e hlater).not_isReading
  · intro hundecided
    have hlast := hundecided last (List.mem_append_left _ h.last_mem) (h.in_time last h.last_mem)
      h.reads
    rcases h.of_undecided hlast hnever with ⟨m, hm⟩
    exact ⟨m, hfailed _ hm⟩
  · intro before success after hlog hsuccess hlooks
    rcases h.eq_of_success hleaves hlog hsuccess with ⟨rfl, rfl⟩
    have hok := h.of_success hsuccess
    rw [← (h.succeeded hok).2] at hlooks
    exact hunready hok hlooks

end

theorem lasts_attend (h : 0 < patience.pollInterval.millis)
    (course : Lasts c (attend patience s).run log c' outcome) :
    Spared (log.map Prod.snd) ∧
      (∀ report, outcome = .ok report → report.submission = s ∧ HasFinished log report) ∧
      (c.cancelAt = none → Truthful patience c.now s.scope s.job s.cluster log outcome) := by
  rcases Operation.lasts_bind course with
    ⟨e, rfl, hawait⟩ | ⟨_, reads, rest, middle, rfl, hawait, hrest⟩
  · rcases lasts_awaitRestore h hawait with ⟨last, hawaited⟩
    refine ⟨hawaited.spared, ?_, ?_⟩
    · intro report hreport
      cases hreport
    · intro hnever
      rw [← List.append_nil log]
      apply hawaited.truthful (by simp) hnever
      · intro e' he'
        cases he'
        rfl
      · intro hok
        cases hok
  · rcases lasts_awaitRestore h hawait with ⟨last, hawaited⟩
    rcases lasts_attendCluster h hrest with ⟨hleaves, hanswers, htimeout⟩
    refine ⟨?_, ?_, ?_⟩
    · rw [List.map_append, spared_append]
      constructor
      · exact hawaited.spared
      · rw [Spared, List.forall_mem_map]
        intro e he
        exact (hleaves e he).sparing _
    · intro report hreport
      rcases hanswers report hreport with ⟨rfl, hanswered⟩
      rcases hawaited.ends with ⟨earlier, hreads, _⟩
      exact ⟨rfl, earlier, last, rest, by simp [hreads], (hawaited.succeeded rfl).1, hanswered⟩
    · intro hnever
      apply hawaited.truthful hleaves hnever
      · intro e he
        cases he
      · intro _
        exact htimeout (hawait.cancelAt_eq.trans hnever)

/-!
## Whole restores
-/

theorem lasts_restored {o : RestoreOptions} {report : Report}
    (h : 0 < patience.pollInterval.millis)
    (course : Lasts c (run patience o).run log c' (Except.ok report)) :
    HasRestored log report := by
  rw [run_eq] at course
  rcases Operation.lasts_bind course with
    ⟨e, hreport, _⟩ | ⟨s, started, after, middle, rfl, hstart, hattend⟩
  · cases hreport
  · rcases lasts_execute_ok hstart with
      ⟨_, before, job, rfl, hspared, hcreated, hnames⟩
    rcases lasts_attend h hattend with ⟨hafter, hends, _⟩
    rcases hends report rfl with ⟨rfl, hfinished⟩
    exact ⟨before, c.now, job, after, by simp, hspared, hafter, hcreated, hnames, hfinished⟩

theorem lasts_truthful {o : RestoreOptions} (h : 0 < patience.pollInterval.millis)
    (course : Lasts c (run patience o).run log c' outcome) (hnever : c.cancelAt = none)
    {before after : Chronicle Server} {t : Nat} {job : Restore}
    (hlog : log = before ++ (t, created job) :: after) :
    Truthful patience t job.metadata.scope job.metadata.name job.spec.cluster after outcome := by
  rw [run_eq] at course
  rcases Operation.lasts_bind course with
    ⟨e, rfl, hstart⟩ | ⟨s, started, attended, middle, rfl, hstart, hattend⟩
  · have hnone := lasts_execute_error hstart job
    rw [hlog] at hnone
    simp at hnone
  · rcases lasts_execute_ok hstart with
      ⟨hclock, before', job', rfl, hspared, _, hname, hscope, hcluster⟩
    rw [hclock] at hattend
    rcases lasts_attend h hattend with ⟨hattended, _, htruthful⟩
    have hsplit : before' ++ (c.now, created job') :: attended =
        before ++ (t, created job) :: after := by
      rw [← hlog]
      simp
    have hbefore : (t, created job) ∉ before' := fun hmem =>
      hspared.noneCreated job (List.mem_map_of_mem hmem)
    have hafter : (t, created job) ∉ attended := fun hmem =>
      hattended.noneCreated job (List.mem_map_of_mem hmem)
    rcases (List.append_cons_inj_of_notMem hbefore hafter).mp hsplit with ⟨rfl, hjob, rfl⟩
    cases hjob
    rw [hname, hscope, hcluster]
    exact htruthful hnever

/-- If an attended restore succeeds, its job was read as succeeded, and its cluster served, before
the databases were asked for the summary.  If its job or its cluster fails it, the end says so. -/
theorem run_reports_truly {σ : Type} (answer : (d : Demand) → σ → d.Answer × σ)
    (patience : Patience) (o : RestoreOptions) (c : Clock) (s : σ)
    (h : 0 < patience.pollInterval.millis) :
    (∀ report, (Procedure.run answer (run patience o).run c s).1 = Except.ok report →
      HasRestored (Procedure.chronicle answer (run patience o).run c s) report) ∧
    (c.cancelAt = none → ∀ before t job after,
      Procedure.chronicle answer (run patience o).run c s =
        before ++ (t, created job) :: after →
      Truthful patience t job.metadata.scope job.metadata.name job.spec.cluster after
        (Procedure.run answer (run patience o).run c s).1) := by
  have course := Procedure.lasts_run answer (run patience o).run c s
  constructor
  · intro report hreport
    rw [hreport] at course
    exact lasts_restored h course
  · intro hnever before t job after hlog
    exact lasts_truthful h course hnever hlog

/-!
Small examples: jobs are in one state and clusters serve as soon as they exist, or jobs cannot be
read, or the clusters of a namespace are not found.
-/

def exampleOperator (state : String) (x : Store) : Store :=
  { x with
    restores := x.restores.map fun j =>
      j.mapFields fun fields => fields.set "status" (.obj [("state", .str state)])
    clusters := x.clusters.map fun j =>
      j.mapFields fun fields => fields.set "status" (.obj [("state", .str "ready")])
    commands := [{ stdout := "shop\t2\n".toUTF8.data.toList }] }

def exampleAnswer (state : String) (d : Demand) (x : Store) : d.Answer × Store :=
  Store.serving (exampleOperator state) exampleStamp d x

def exampleOutage : (d : Demand) → Store → d.Answer × Store
  | .server (.getRestore _ _), x => (Except.error (.server (.unanswered "connection reset")), x)
  | d, x => exampleAnswer "Running" d x

def exampleBlindness : (d : Demand) → Store → d.Answer × Store
  | .server (.getCluster scope name), x =>
      if scope = "staging" then (Except.ok none, x)
      else exampleAnswer "Succeeded" (.server (.getCluster scope name)) x
  | d, x => exampleAnswer "Succeeded" d x

section

variable (answer : (d : Demand) → Store → d.Answer × Store)

def examplePatience : Patience where
  restoreTimeout := ⟨0⟩
  readyTimeout := ⟨0⟩

def exampleOutcome : Except Error Report :=
  (Procedure.run answer (run examplePatience (exampleOptions "staging")).run {} exampleStore).1

def exampleChronicle : Chronicle Server :=
  Procedure.chronicle answer (run examplePatience (exampleOptions "staging")).run {} exampleStore

end

/-- The first job that was created, and what came after it. -/
def afterCreation : Chronicle Server → Option (Restore × Chronicle Server)
  | [] => none
  | (_, ⟨.server (.createRestore job), .ok _⟩) :: after => some (job, after)
  | _ :: rest => afterCreation rest

def stateRead? (job : Restore) : Exchange Server → Option RestoreState
  | ⟨.server (.getRestore scope name), .ok (some r)⟩ =>
      if scope = job.metadata.scope ∧ name = job.metadata.name then some r.state else none
  | _ => none

theorem eq_append_of_afterCreation {job : Restore} {after : Chronicle Server}
    (h : afterCreation log = some (job, after)) :
    ∃ before t, log = before ++ (t, created job) :: after := by
  induction log using afterCreation.induct with
  | case1 => cases h
  | case2 t job' answer rest =>
      rw [afterCreation] at h
      cases h
      exact ⟨[], t, rfl⟩
  | case3 first rest hother ih =>
      rw [afterCreation] at h
      · rcases ih h with ⟨before, t, hrest⟩
        exact ⟨first :: before, t, by rw [hrest]; rfl⟩
      · exact hother

theorem exists_append_of_any (log : Chronicle Server) (P : Restore → Chronicle Server → Bool)
    (h : ((afterCreation log).any fun found => P found.1 found.2) = true) :
    ∃ before t job after, log = before ++ (t, created job) :: after ∧ P job after = true := by
  cases hfound : afterCreation log with
  | none =>
      rw [hfound] at h
      cases h
  | some found =>
      rw [hfound] at h
      rcases eq_append_of_afterCreation hfound with ⟨before, t, hlog⟩
      exact ⟨before, t, found.1, found.2, hlog, h⟩

theorem exists_of_stateRead? {job : Restore} {e : Exchange Server} {state : RestoreState}
    (h : stateRead? job e = some state) :
    ∃ r : Restore, e = ⟨.server (.getRestore job.metadata.scope job.metadata.name),
      Except.ok (some r)⟩ ∧ r.state = state := by
  unfold stateRead? at h
  split at h
  · rename_i scope name r
    split at h
    · rename_i hplace
      rcases hplace with ⟨rfl, rfl⟩
      exact ⟨r, rfl, Option.some.inj h⟩
    · cases h
  · cases h

theorem every_end_occurs :
    (∃ report, exampleOutcome (exampleAnswer "Succeeded") = Except.ok report ∧
      HasRestored (exampleChronicle (exampleAnswer "Succeeded")) report) ∧
    (∃ m, exampleOutcome (exampleAnswer "Failed") = Except.error (.externalFailure m)) ∧
    (∃ m, exampleOutcome exampleOutage = Except.error (.timeout m)) ∧
    (∃ m, exampleOutcome exampleBlindness = Except.error (.timeout m)) := by
  have hreports (answer : (d : Demand) → Store → d.Answer × Store) :=
    run_reports_truly answer examplePatience (exampleOptions "staging") {} exampleStore (by decide)
  refine ⟨?_, ?_, ?_, ?_⟩
  · have hok : (exampleOutcome (exampleAnswer "Succeeded")).toOption.any fun _ => true := by
      decide +kernel
    rcases exists_ok_of_any hok with ⟨report, hreport, _⟩
    exact ⟨report, hreport, (hreports _).1 report hreport⟩
  · rcases exists_append_of_any (exampleChronicle (exampleAnswer "Failed"))
        (fun job after => after.any fun e => stateRead? job e.2 == some .failed)
        (by decide +kernel) with
      ⟨before, t, job, after, hlog, hafter⟩
    apply ((hreports _).2 rfl before t job after hlog).failed
    rcases List.any_eq_true.mp hafter with ⟨e, he, hstate⟩
    rcases exists_of_stateRead? (eq_of_beq hstate) with ⟨r, hr, hfailed⟩
    exact ⟨e, he, r, hr, Or.inl hfailed⟩
  · rcases exists_append_of_any (exampleChronicle exampleOutage) (fun _ _ => true)
        (by decide +kernel) with
      ⟨before, t, job, after, hlog, _⟩
    apply ((hreports _).2 rfl before t job after hlog).undecided
    intro e he _ hreading
    have hmem : e ∈ exampleChronicle exampleOutage := by
      rw [hlog]
      exact List.mem_append_right _ (List.mem_cons_of_mem _ he)
    rcases Procedure.exists_answer_of_mem hmem with ⟨d, x, hanswer⟩
    rcases hreading with ⟨y, hy⟩
    rw [hanswer] at hy
    cases hy
    exact Or.inr ⟨_, hanswer, rfl⟩
  · rcases exists_append_of_any (exampleChronicle exampleBlindness)
        (fun job after => job.metadata.scope == "staging" &&
          after.any fun e => stateRead? job e.2 == some .succeeded)
        (by decide +kernel) with
      ⟨before, t, job, after, hlog, hafter⟩
    rw [Bool.and_eq_true, beq_iff_eq] at hafter
    rcases List.any_eq_true.mp hafter.2 with ⟨success, hmem, hstate⟩
    rcases List.append_of_mem hmem with ⟨reads, rest, hsplit⟩
    apply ((hreports _).2 rfl before t job after hlog).never_ready reads success rest hsplit
    · exact exists_of_stateRead? (eq_of_beq hstate)
    · intro e he _ hserving
      have hmem : e ∈ exampleChronicle exampleBlindness := by
        rw [hlog, hsplit]
        simp [he]
      rcases Procedure.exists_answer_of_mem hmem with ⟨d, x, hanswer⟩
      rcases hserving with ⟨cluster, hcluster, _⟩
      rw [hanswer, hafter.1] at hcluster
      cases hcluster

end Workflow
end PointInTime
