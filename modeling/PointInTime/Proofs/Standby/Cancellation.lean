import PointInTime.Proofs.Procedure.Cancellation
import PointInTime.Proofs.Standby.Runs

/-!
# A controller that is cancelled

The controller looks at its cancellation at pauses only: between two cycles, and between two looks
at the job of a cycle.  The rest of a cycle is carried through.

Main statement: wherever the cancellation comes, the controller submits once more at most, looks at
its job once more at most, and returns; and it saves only what it had read to be restored.
-/

namespace PointInTime

/-- What a request is called, whatever it is about. -/
def Demand.method : Demand → String
  | .server r => r.words.headD ""
  | .stamp => "stamp"

def methods (h : History Server) : List String :=
  h.map fun e => e.1.method

namespace Operation

open Procedure hiding bind

variable {α β : Type} {l l₁ l₂ : List String}

theorem alwaysCloses_bind {x : Operation α} {f : α → Operation β}
    (hx : AlwaysCloses Demand.method l₁ x.run)
    (hf : ∀ a, AlwaysCloses Demand.method l₂ (f a).run) :
    AlwaysCloses Demand.method (l₁ ++ l₂) (x >>= f).run := by
  rw [ExceptT.run_bind, bind_eq_bind]
  apply Procedure.alwaysCloses_bind hx
  intro outcome
  cases outcome with
  | ok a => exact hf a
  | error e => exact alwaysCloses_done _

theorem alwaysCloses_of (outcome : Except Error α) :
    AlwaysCloses Demand.method [] (of outcome).run :=
  alwaysCloses_done outcome

theorem alwaysCloses_of_bind (outcome : Except Error α) {f : α → Operation β}
    (hf : ∀ a, AlwaysCloses Demand.method l (f a).run) :
    AlwaysCloses Demand.method l (of outcome >>= f).run := by
  rw [← List.nil_append l]
  exact alwaysCloses_bind (alwaysCloses_of outcome) hf

theorem alwaysCloses_lift {p : Procedure Server α} (hp : AlwaysCloses Demand.method l p) :
    AlwaysCloses Demand.method l (liftM p : Operation α).run := by
  rw [ExceptT.run_liftM]
  exact alwaysCloses_bind_nil hp fun _ => alwaysCloses_done _

theorem alwaysCloses_send (r : Request) :
    AlwaysCloses Demand.method [Demand.method (.server r)] (send r).run :=
  alwaysCloses_request (I := Server) (.server r)

theorem alwaysCloses_andThen {x : Operation α} {f : α → Operation β}
    (hx : AlwaysCloses Demand.method l x.run) (hf : ∀ a, AlwaysCloses Demand.method [] (f a).run) :
    AlwaysCloses Demand.method l (x >>= f).run := by
  rw [← List.append_nil l]
  exact alwaysCloses_bind hx hf

end Operation

namespace Standby

open Procedure hiding bind

variable {s : Settings}

/-!
## What is left of a cycle
-/

/-- All that a cycle asks for after its cancellation, if it has to ask for all of it. -/
def remainingCalls : List String :=
  ["list_restores", "list_backups", "list_clusters", "get_config_map_data", "stamp",
    "create_restore", "get_restore"] ++ List.replicate 5 "apply_config_map_data"

theorem alwaysCloses_listAll (scope : String) :
    AlwaysCloses Demand.method ["list_backups", "list_clusters"] (Catalog.listAll scope) := by
  unfold Catalog.listAll
  show AlwaysCloses _ (["list_backups"] ++ ["list_clusters"]) (Procedure.bind _ _)
  apply Procedure.alwaysCloses_bind (Operation.alwaysCloses_send _)
  intro backups
  cases backups with
  | error e => exact alwaysCloses_done _
  | ok backups =>
      cases backups with
      | nil => exact alwaysCloses_done _
      | cons b more =>
          apply alwaysCloses_bind_nil (Operation.alwaysCloses_send (.listClusters scope))
          intro clusters
          cases clusters <;> exact alwaysCloses_done _

theorem alwaysCloses_newest (scope : String) (cluster : Option String) :
    AlwaysCloses Demand.method ["list_backups", "list_clusters"]
      (Catalog.newest scope cluster) := by
  apply alwaysCloses_bind_nil
  · exact alwaysCloses_bind_nil (alwaysCloses_listAll scope) fun _ => alwaysCloses_done _
  · exact fun _ => alwaysCloses_done _

theorem alwaysCloses_submit (scope cluster : String) (backup : BackupRecord) (instant : Instant)
    (storageName : String) :
    AlwaysCloses Demand.method ["stamp", "create_restore"]
      (Job.submit scope cluster backup instant storageName).run := by
  unfold Job.submit
  show AlwaysCloses _ (["stamp"] ++ ["create_restore"]) _
  apply Operation.alwaysCloses_bind
  · exact Operation.alwaysCloses_lift (alwaysCloses_request (I := Server) .stamp)
  · intro stamp
    apply Operation.alwaysCloses_of_bind
    intro job
    apply Operation.alwaysCloses_andThen (Operation.alwaysCloses_send _)
    exact fun _ => Operation.alwaysCloses_of _

theorem alwaysCloses_await {interval : Duration} (hinterval : 0 < interval.millis)
    (scope job : String) (timeout : Duration) :
    AlwaysCloses Demand.method ["get_restore"] (Job.await scope job interval timeout).run := by
  apply alwaysCloses_bind_nil
  · apply alwaysCloses_followWithin hinterval
    intro seen
    exact alwaysCloses_bind_nil (Operation.alwaysCloses_send (.getRestore scope job))
      fun _ => alwaysCloses_done _
  · intro ended
    cases ended <;> exact alwaysCloses_done _

theorem alwaysCloses_save (scope cluster : String) (t : TrackingRecord) :
    AlwaysCloses Demand.method (List.replicate 5 "apply_config_map_data")
      (t.save scope cluster).run :=
  alwaysCloses_retryLimited (Operation.alwaysCloses_send _) {}
    RetryPolicy.maxAttempts_default_pos

theorem alwaysCloses_restore (hpoll : 0 < s.pollInterval.millis) (backup : BackupRecord)
    (completedAt : Instant) (t : TrackingRecord) :
    AlwaysCloses Demand.method
      (["stamp", "create_restore"] ++ (["get_restore"] ++ List.replicate 5 "apply_config_map_data"))
      (restore s backup completedAt t).run := by
  unfold restore
  apply Operation.alwaysCloses_of_bind
  intro storage
  apply Operation.alwaysCloses_bind (alwaysCloses_submit _ _ _ _ _)
  intro job
  apply Operation.alwaysCloses_bind (alwaysCloses_await hpoll _ _ _)
  intro outcome
  cases outcome with
  | succeeded =>
      apply Operation.alwaysCloses_andThen (alwaysCloses_save _ _ t)
      exact fun _ => Operation.alwaysCloses_of _
  | failed state comments => exact alwaysCloses_done _
  | timedOut lastState => exact alwaysCloses_done _
  | cancelled => exact alwaysCloses_done _

theorem alwaysCloses_catchUp (hpoll : 0 < s.pollInterval.millis) (n : BackupRecord) :
    AlwaysCloses Demand.method
      (["get_config_map_data"] ++ (["stamp", "create_restore"] ++
        (["get_restore"] ++ List.replicate 5 "apply_config_map_data")))
      (catchUp s n).run := by
  unfold catchUp
  split
  · rename_i completedAt t _ _
    apply Operation.alwaysCloses_bind
    · unfold TrackingRecord.load
      apply Operation.alwaysCloses_andThen (Operation.alwaysCloses_send _)
      exact fun _ => Operation.alwaysCloses_of _
    · intro last
      cases last with
      | none => exact alwaysCloses_restore hpoll n completedAt t
      | some last =>
          show AlwaysCloses _ _ (if last.identifies n = true then _ else _ : Operation _).run
          split
          · exact alwaysCloses_done _
          · exact alwaysCloses_restore hpoll n completedAt t
  · exact alwaysCloses_done _

/-- Once it is cancelled, a cycle asks for these at most, wherever it is. -/
theorem alwaysCloses_cycle (hpoll : 0 < s.pollInterval.millis) :
    AlwaysCloses Demand.method remainingCalls (cycle s).run := by
  unfold cycle
  show AlwaysCloses _ (["list_restores"] ++ (["list_backups", "list_clusters"] ++
    (["get_config_map_data"] ++ (["stamp", "create_restore"] ++
      (["get_restore"] ++ List.replicate 5 "apply_config_map_data"))))) _
  apply Operation.alwaysCloses_bind
  · unfold Job.countInFlight
    apply Operation.alwaysCloses_andThen (Operation.alwaysCloses_send _)
    exact fun _ => Operation.alwaysCloses_of _
  · intro count
    split
    · exact alwaysCloses_done _
    · apply Operation.alwaysCloses_bind (Operation.alwaysCloses_lift (alwaysCloses_newest _ _))
      intro newest
      cases newest with
      | none => exact alwaysCloses_done _
      | some n => exact alwaysCloses_catchUp hpoll n

/-!
## What is left of the loop
-/

variable {σ : Type} {E : Surroundings Server σ} {x y z : σ} {log : History Server}

/-- What the loop does after a cycle. -/
def proceed (s : Settings) (cycles : Nat) (outcome : Except Error Outcome) :
    Procedure Server Bool :=
  if isCancelled outcome then .done true
  else
    .pause s.cycleInterval fun
      | .cancelled => .done true
      | .elapsed => run s cycles

theorem run_succ (s : Settings) (cycles : Nat) :
    run s (cycles + 1) = Procedure.bind (cycle s).run (proceed s cycles) := by
  rw [run, bind_eq_bind]
  rfl

/-- A moment of the loop: it is in a cycle, or it asks for nothing more once it is cancelled, or it
has come to the end of the cycles it was given. -/
theorem passes_run_cases {cycles : Nat} {q : Procedure Server Bool}
    (hinterval : 0 < s.cycleInterval.millis)
    (pass : Passes E x (run s cycles) log y q) :
    q = .done false ∨
      (Closes Demand.method (· = true) [] q ∧ ∀ d next, q ≠ .ask d next) ∨
      ∃ past begun middle p n, log = past ++ begun ∧
        Passes E middle (cycle s).run begun y p ∧ q = Procedure.bind p (proceed s n) := by
  induction cycles generalizing x log with
  | zero => exact Or.inl pass.eq_of_done
  | succ n ih =>
      rw [run_succ] at pass
      rcases passes_bind pass with
        ⟨p, hcycle, hq⟩ | ⟨outcome, before, after, middle, rfl, hcycle, hafter⟩
      · exact Or.inr (Or.inr ⟨[], log, x, p, n, rfl, hcycle, hq⟩)
      · unfold proceed at hafter
        split at hafter
        · rw [hafter.eq_of_done]
          exact Or.inr (Or.inl ⟨rfl, fun _ _ hq => by cases hq⟩)
        · rcases passes_pause hafter with hq | ⟨w, idle, hnext⟩
          · rw [hq]
            exact Or.inr (Or.inl ⟨closes_pause hinterval rfl, fun _ _ hq => by cases hq⟩)
          · cases w with
            | cancelled =>
                rw [Passes.eq_of_done hnext]
                exact Or.inr (Or.inl ⟨rfl, fun _ _ hq => by cases hq⟩)
            | elapsed =>
                rcases ih hnext with hend | hclosing | ⟨past, begun, start, p, m, rfl, hcycle, hq⟩
                · exact Or.inl hend
                · exact Or.inr (Or.inl hclosing)
                · exact Or.inr (Or.inr ⟨before ++ past, begun, start, p, m,
                    (List.append_assoc _ _ _).symm, hcycle, hq⟩)

/-- A controller that is cancelled asks for what is left of one cycle at most, and returns. -/
theorem closes_of_passes_run {cycles : Nat} {q : Procedure Server Bool}
    (hpoll : 0 < s.pollInterval.millis) (hinterval : 0 < s.cycleInterval.millis)
    (pass : Passes E x (run s cycles) log y q) (hleft : q ≠ .done false) :
    Closes Demand.method (· = true) remainingCalls q := by
  rcases passes_run_cases hinterval pass with hend | ⟨hclosing, -⟩ | ⟨_, _, _, p, n, -, hcycle, rfl⟩
  · exact absurd hend hleft
  · exact hclosing.mono (List.nil_sublist _) fun _ hb => hb
  · rw [← List.append_nil remainingCalls]
    apply closes_bind (hcycle.always (alwaysCloses_cycle hpoll)).here
    intro outcome _
    unfold proceed
    split
    · rfl
    · exact closes_pause hinterval rfl

/-!
## What is saved
-/

/-- The job that was submitted last has been read as succeeded since. -/
def HasArrived (s : Settings) (h : History Server) (job : Restore) : Prop :=
  ∃ past waited, h = past ++ ⟨.server (.createRestore job), Except.ok ()⟩ :: waited ∧
    Never IsSubmission waited ∧ ∃ e ∈ waited, Job.IsSuccess s.targetScope job.metadata.name e

/-- No submission is followed by another one. -/
def IsLone (h : History Server) : Prop :=
  h.Pairwise fun e e' => IsSubmission e → ¬ IsSubmission e'

theorem isLone_of_passes_cycle {rest : Procedure Server (Except Error Outcome)}
    (pass : Passes E x (cycle s).run log y rest) : IsLone log := by
  refine (passes_cycle_keeps (fun h _ => IsLone h) (fun _ _ _ _ hlone => hlone) ?_ pass
    List.Pairwise.nil).1
  intro h x d a y hasks _ hlone
  unfold IsLone
  rw [List.pairwise_append]
  refine ⟨hlone, List.pairwise_singleton _ _, ?_⟩
  intro e he e' he' hfirst hsecond
  rw [List.mem_singleton.mp he'] at hsecond
  rcases hsecond with ⟨job, hjob⟩
  cases hjob
  exact Submits.isFirst hasks e he hfirst

theorem HasSucceeded.hasArrived {h past : History Server} {job : Restore}
    (hjob : HasSucceeded s h job) (hlone : IsLone h) : HasArrived s (past ++ h) job := by
  rcases hjob with ⟨before, waited, rfl, hsuccess⟩
  refine ⟨past ++ before, waited, (List.append_assoc _ _ _).symm, ?_, hsuccess⟩
  intro e he
  have hlater := (List.pairwise_cons.mp (List.pairwise_append.mp hlone).2.1).1
  exact hlater e he ⟨job, rfl⟩

theorem cancelled_run_winds_up {cycles : Nat} {before after : History Server}
    {q rest : Procedure Server Bool}
    (hpoll : 0 < s.pollInterval.millis) (hinterval : 0 < s.cycleInterval.millis)
    (early : Passes E x (run s cycles) before y q) (hleft : q ≠ .done false)
    (late : PassesCancelled E y q after z rest) :
    (methods after).Sublist remainingCalls ∧
      (methods after).count "create_restore" ≤ 1 ∧ (methods after).count "get_restore" ≤ 1 ∧
      (∀ b, rest = .done b → b = true) ∧
      (∀ (τ : Type) (answer : (d : Demand) → τ → d.Answer × τ) (c : Clock) (t : τ), HasFired c →
        (Procedure.run answer q c t).1 = true) ∧
      ∀ r next, rest = .ask (.server r) next → r.isApplyConfig = true →
        ∃ n job t, HasArrived s (before ++ after) job ∧ IsJobFor s n job ∧
          TrackingRecord.ofRecord? n = some t ∧
          r = TrackingRecord.write s.targetScope s.targetCluster t := by
  have hcloses := closes_of_passes_run hpoll hinterval early hleft
  rcases late.closes hcloses with ⟨hcalls, hend⟩
  refine ⟨hcalls, hcalls.count_le _, hcalls.count_le _, hend, ?_, ?_⟩
  · intro τ answer c t hc
    exact hcloses.run answer hc t
  · rintro r next rfl hr
    rcases passes_run_cases hinterval (early.trans late.passes) with
      hdone | ⟨-, hnone⟩ | ⟨past, begun, middle, p, n, hlog, hcycle, hp⟩
    · cases hdone
    · exact absurd rfl (hnone _ _)
    · cases p with
      | done outcome =>
          rw [bind_done, proceed] at hp
          split at hp
          · cases hp
          · cases hp
      | sleep d p => cases hp
      | pause d next => cases hp
      | ask d next =>
          cases hp
          have hrest := (passes_cycle_keeps (fun _ _ => True) (fun _ _ _ _ _ => trivial)
            (fun _ _ _ _ _ _ _ _ => trivial) hcycle trivial).2
          cases r with
          | applyConfig scope name manager data =>
              rcases hrest.1 with ⟨n, job, t, hconfirmed, hwrite⟩
              rw [hlog]
              exact ⟨n, job, t, hconfirmed.hasSucceeded.hasArrived (isLone_of_passes_cycle hcycle),
                hconfirmed.isJobFor, hconfirmed.identity, hwrite⟩
          | _ => cases hr

/-- A cycle that waits for its job. -/
def examplePatience : Settings :=
  { exampleSettings with restoreTimeout := .ofMinutes 1 }

/-- The controller is cancelled after three requests: it submits, finds its job done, records it and
returns. -/
theorem cancelled_run_of_first_backup :
    ∃ (before after : History Server) (y z : Store) (q : Procedure Server Bool),
      Passes (Store.faulty fun x y => y = exampleOperator x) exampleStore (run examplePatience 2)
        before y q ∧
      PassesCancelled (Store.faulty fun x y => y = exampleOperator x) y q after z (.done true) ∧
      methods after = ["get_config_map_data", "stamp", "create_restore", "get_restore",
        "apply_config_map_data"] ∧
      (methods after).Sublist remainingCalls := by
  let stamp : Stamp := ⟨.epoch, "abcd"⟩
  have early := passes_advance (E := Store.faulty fun x y => y = exampleOperator x)
    (Store.answers_serving id stamp) 3 (run examplePatience 2) exampleStore
  have hleft : (advance (Store.serving id stamp) 3 (run examplePatience 2) exampleStore).1 ≠
      .done false := by
    intro hdone
    have hends := congrArg (fun q => match q with | .done _ => true | _ => false) hdone
    revert hends
    decide +kernel
  have hfired : HasFired { cancelAt := some 0 } := ⟨0, rfl, Nat.le_refl 0⟩
  have late := passesCancelled_run (E := Store.faulty fun x y => y = exampleOperator x)
    (fun d x => ⟨exampleOperator x, Or.inr rfl, Store.answers_serving exampleOperator stamp d x⟩)
    (advance (Store.serving id stamp) 3 (run examplePatience 2) exampleStore).1 hfired
    (advance (Store.serving id stamp) 3 (run examplePatience 2) exampleStore).2.2
  rcases cancelled_run_winds_up (by decide) (by decide) early hleft late with
    ⟨hcalls, -, -, hreturned, -, -⟩
  rw [hreturned _ rfl] at late
  refine ⟨_, _, _, _, _, early, late, ?_, hcalls⟩
  decide +kernel

end Standby
end PointInTime
