import PointInTime.Proofs.Server.Configs
import PointInTime.Proofs.Standby.Runs
import PointInTime.Proofs.Standby.Tracking

/-!
# What the record says

The record of a standby changes only when a cycle writes it, as long as nobody else does.  Main
statement: a cycle writes the record only after the job it submitted was read as succeeded, and then
it writes the identity of the backup that this job restores; when a cycle ends in any other way the
record is as it was.  So the record of a run is the one it began with, or the identity of a backup
whose job was seen to succeed.
-/

namespace PointInTime
namespace Standby

open Store

variable {s : Settings} {h log : History Server} {x y : Store} {before : Option Json}
variable {rest : Procedure Server (Except Error Outcome)} {n : BackupRecord} {job : Restore}
variable {t : TrackingRecord}

def tracked (s : Settings) (x : Store) : Option Json :=
  x.configAt s.targetScope (Name.forTracking s.targetCluster)

def recordOf (s : Settings) (t : TrackingRecord) : Json :=
  ConfigMap.toJson s.targetScope (Name.forTracking s.targetCluster) t.toData

theorem tracked_of_eq (h : y.configs = x.configs) : tracked s y = tracked s x :=
  configAt_of_eq h _ _

/-!
## The record after a history
-/

def recordAfter (record : Option Json) : Exchange Server → Option Json
  | ⟨.server (.applyConfig scope name _ data), outcome⟩ =>
      match (outcome : Except Error Unit) with
      | .ok _ => some (ConfigMap.toJson scope name data)
      | .error _ => record
  | _ => record

theorem recordAfter_of_not_isSave {e : Exchange Server} (he : ¬ IsSave e) (record : Option Json) :
    recordAfter record e = record := by
  obtain ⟨d, a⟩ := e
  cases d with
  | stamp => rfl
  | server r =>
      cases r with
      | applyConfig scope name manager data =>
          cases a with
          | ok u => exact absurd ⟨scope, name, manager, data, rfl⟩ he
          | error e => rfl
      | _ => rfl

theorem foldl_recordAfter_of_never (hh : Never IsSave h) (record : Option Json) :
    h.foldl recordAfter record = record := by
  induction h generalizing record with
  | nil => rfl
  | cons e rest ih =>
      rw [List.foldl_cons, recordAfter_of_not_isSave (hh e List.mem_cons_self)]
      exact ih (fun e' he' => hh e' (List.mem_cons_of_mem _ he')) record

theorem foldl_recordAfter_cases (h : History Server) (record : Option Json) :
    h.foldl recordAfter record = record ∨
      ∃ scope name manager data,
        (⟨.server (.applyConfig scope name manager data), Except.ok ()⟩ : Exchange Server) ∈ h ∧
          h.foldl recordAfter record = some (ConfigMap.toJson scope name data) := by
  induction h generalizing record with
  | nil => exact Or.inl rfl
  | cons e rest ih =>
      rw [List.foldl_cons]
      rcases ih (recordAfter record e) with hsame | ⟨scope, name, manager, data, hmem, hlast⟩
      · by_cases he : IsSave e
        · obtain ⟨scope, name, manager, data, rfl⟩ := he
          exact Or.inr ⟨scope, name, manager, data, List.mem_cons_self, hsame⟩
        · rw [recordAfter_of_not_isSave he] at hsame ⊢
          exact Or.inl hsame
      · exact Or.inr ⟨scope, name, manager, data, List.mem_cons_of_mem _ hmem, hlast⟩

/-!
## What a cycle keeps
-/

structure Recorded (s : Settings) (before : Option Json) (h : History Server) (x : Store) :
    Prop where
  tracked : tracked s x = h.foldl recordAfter before
  justified : ∀ scope name manager data,
    (⟨.server (.applyConfig scope name manager data), Except.ok ()⟩ : Exchange Server) ∈ h →
      Saves s h (.applyConfig scope name manager data)

theorem tracked_answers {d : Demand} {a : d.Answer} (hasks : Asks s h d) (ha : Answers x d a y) :
    tracked s y = recordAfter (tracked s x) ⟨d, a⟩ := by
  cases ha with
  | failed r e => cases r <;> rfl
  | stamped stamp => rfl
  | served r =>
      cases r with
      | applyConfig scope name manager data =>
          obtain ⟨n, job, t, _, hwrite⟩ := hasks
          cases hwrite
          exact configAt_perform_applyConfig _ _ _ _ x
      | _ => exact configAt_of_eq (configs_perform rfl x) _ _

theorem Recorded.step {d : Demand} {a : d.Answer} (hasks : Asks s h d) (ha : Answers x d a y)
    (hx : Recorded s before h x) : Recorded s before (h ++ [⟨d, a⟩]) y where
  tracked := by
    rw [List.foldl_append, ← hx.tracked]
    exact tracked_answers hasks ha
  justified := by
    intro scope name manager data hmem
    rcases List.mem_append.mp hmem with hold | hnew
    · exact (hx.justified scope name manager data hold).append _
    · cases List.mem_singleton.mp hnew
      exact Saves.append hasks _

theorem Recorded.passes {others : Store → Store → Prop}
    (hothers : ∀ x y, others x y → Standby.tracked s y = Standby.tracked s x)
    (pass : Procedure.Passes (faulty others) x (cycle s).run log y rest) :
    Recorded s (Standby.tracked s x) log y ∧ Procedure.Ensures (Asks s) (Ends s) rest log := by
  apply passes_cycle_keeps (Recorded s (Standby.tracked s x)) _ _ pass
  · exact ⟨rfl, fun _ _ _ _ hmem => by cases hmem⟩
  · intro h x y hd hx
    exact ⟨(hothers x y hd).trans hx.tracked, hx.justified⟩
  · intro h x d a y hasks ha hx
    exact hx.step hasks ha

theorem Recorded.cases (hx : Recorded s before h x) :
    Standby.tracked s x = before ∨
      ∃ n job t, Confirmed s h n job t ∧ Standby.tracked s x = some (recordOf s t) := by
  rw [hx.tracked]
  rcases foldl_recordAfter_cases h before with hsame | ⟨scope, name, manager, data, hmem, hlast⟩
  · exact Or.inl hsame
  · obtain ⟨n, job, t, hconfirmed, hwrite⟩ := hx.justified scope name manager data hmem
    cases hwrite
    exact Or.inr ⟨n, job, t, hconfirmed, hlast⟩

/-!
## Whole runs
-/

theorem Confirmed.identifies (hc : Confirmed s h n job t) : t.identifies n = true :=
  (TrackingRecord.identifies_iff hc.identity).mpr ⟨rfl, rfl⟩

theorem Confirmed.destination (hc : Confirmed s h n job t) :
    job.spec.backupSource.bind (·.destination) = some t.destination := by
  obtain ⟨completedAt, storage, _, _, hbuild⟩ := hc.isJobFor
  obtain ⟨_, _, _, destination, hd, hsource⟩ := Job.build_eq_ok hbuild
  have hidentity := (TrackingRecord.ofRecord?_eq_some hc.identity).2
  rw [hsource, ← hidentity, hd]
  rfl

/-- The outcome of a cycle says whether the record was written. -/
theorem Recorded.ends {outcome : Except Error Outcome} (hx : Recorded s before h x)
    (hend : Ends s h outcome) :
    (∃ n job t, outcome = .ok (.restored n.name job.metadata.name) ∧ Confirmed s h n job t ∧
        Standby.tracked s x = some (recordOf s t)) ∨
      (∀ backup job, outcome ≠ .ok (.restored backup job)) ∧ Standby.tracked s x = before := by
  have hnever (hsaved : Never IsSave h) : Standby.tracked s x = before :=
    hx.tracked.trans (foldl_recordAfter_of_never hsaved before)
  cases outcome with
  | error e => exact Or.inr ⟨fun _ _ heq => (by cases heq), hnever hend⟩
  | ok outcome =>
      cases outcome with
      | restored backup job =>
          obtain ⟨n, r, t, earlier, hconfirmed, rfl, rfl, hh, _⟩ := hend
          refine Or.inl ⟨n, r, t, rfl, hconfirmed, ?_⟩
          rw [hx.tracked, hh, List.foldl_append]
          rfl
      | _ => exact Or.inr ⟨fun _ _ heq => (by cases heq), hnever hend⟩

theorem record_of_runs {others : Store → Store → Prop} {start : Store}
    {past : List (Episode Store)}
    (hothers : ∀ x y, others x y → tracked s y = tracked s x)
    (run : Runs (faulty others) s start past x) :
    tracked s x = tracked s start ∨
      ∃ ep ∈ past, ∃ n job t, Confirmed s ep.log n job t ∧ tracked s x = some (recordOf s t) := by
  induction run with
  | start => exact Or.inl rfl
  | @episode y z past log rest _ pass ih =>
      rcases (Recorded.passes hothers pass).1.cases with hsame | ⟨n, job, t, hconfirmed, hz⟩
      · rcases ih with hstart | ⟨ep, hep, n, job, t, hconfirmed, hy⟩
        · exact Or.inl (hsame.trans hstart)
        · exact Or.inr ⟨ep, List.mem_append_left _ hep, n, job, t, hconfirmed, hsame.trans hy⟩
      · exact Or.inr ⟨_, List.mem_append_right _ (List.mem_singleton_self _), n, job, t,
          hconfirmed, hz⟩

theorem record_written_only_after_success {others : Store → Store → Prop}
    {start here now : Store} {past : List (Episode Store)}
    (hothers : ∀ x y, others x y → tracked s y = tracked s x)
    (run : Runs (faulty others) s start past here)
    (pass : Procedure.Passes (faulty others) here (cycle s).run log now rest) :
    (∀ r next, rest = .ask (.server r) next → r.isApplyConfig = true →
      ∃ n job t, Confirmed s log n job t ∧
        r = TrackingRecord.write s.targetScope s.targetCluster t ∧ t.identifies n = true ∧
        job.spec.backupSource.bind (·.destination) = some t.destination) ∧
    (∀ outcome, rest = .done outcome →
      (∃ n job t, outcome = .ok (.restored n.name job.metadata.name) ∧
          Confirmed s log n job t ∧ tracked s now = some (recordOf s t)) ∨
        (∀ backup job, outcome ≠ .ok (.restored backup job)) ∧
          tracked s now = tracked s here) ∧
    (tracked s now = tracked s here ∨
      ∃ n job t, Confirmed s log n job t ∧ tracked s now = some (recordOf s t)) ∧
    (tracked s now = tracked s start ∨
      ∃ ep ∈ past ++ [⟨here, log, now, rest⟩], ∃ n job t, Confirmed s ep.log n job t ∧
        tracked s now = some (recordOf s t)) := by
  obtain ⟨hnow, hrest⟩ := Recorded.passes hothers pass
  refine ⟨?_, ?_, hnow.cases, record_of_runs hothers (Runs.episode run pass)⟩
  · rintro r next rfl hr
    cases r with
    | applyConfig scope name manager data =>
        obtain ⟨n, job, t, hconfirmed, hwrite⟩ := hrest.1
        exact ⟨n, job, t, hconfirmed, hwrite, hconfirmed.identifies, hconfirmed.destination⟩
    | _ => cases hr
  · rintro outcome rfl
    exact hnow.ends hrest

/-- The first backup is restored and recorded. -/
theorem record_written_after_first_restore :
    ∃ n job t,
      (exampleCycle exampleOperator exampleStore).1 =
          .ok (.restored n.name job.metadata.name) ∧
        Confirmed exampleSettings (exampleLog exampleOperator exampleStore) n job t ∧
        tracked exampleSettings (exampleCycle exampleOperator exampleStore).2.2 =
          some (recordOf exampleSettings t) := by
  have hpass := passes_exampleCycle (fun x y => y.configs = x.configs) exampleOperator
    (fun _ => Or.inr rfl) exampleStore
  rcases (record_written_only_after_success (fun _ _ => tracked_of_eq)
    (Runs.start _) hpass).2.1 _ rfl with
    hrestored | ⟨hother, _⟩
  · exact hrestored
  · exact absurd exampleCycle_restored (hother _ _)

end Standby
end PointInTime
