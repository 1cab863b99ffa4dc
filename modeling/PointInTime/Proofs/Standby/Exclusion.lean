import PointInTime.Proofs.Server.Restores
import PointInTime.Proofs.Standby.Runs

/-!
# One restore at a time

A controller counts the jobs at work and submits another one in a request of its own.  In between
others act on the jobs and requests fail, possibly after they were carried out.  The namespace that
was seen quiet stays quiet until the submission nevertheless, as long as only the controller creates
jobs in it.

Main statements: along every run there is never more than one open job, unless there were more at
the start, and a job is submitted only when there is none.  A job that can be read and is not known
to be over keeps a cycle from submitting.
-/

namespace PointInTime
namespace Standby

open Store

variable {s : Settings} {bound : Nat} {h : History Server} {x y : Store}
variable {d : Demand} {a : d.Answer}

theorem isQuiet_append_cases {scope : String} {r : Request} {a : Except Error r.Value}
    (hquiet : IsQuiet scope (h ++ [⟨.server r, a⟩])) :
    (∃ jobs : List Restore, (⟨.server r, a⟩ : Exchange Server) =
        ⟨.server (.listRestores scope), Except.ok jobs⟩ ∧
        ∀ r ∈ jobs, r.state.isInFlight = false) ∨
      IsQuiet scope h ∧ r.isCreateRestore = false := by
  rw [isQuiet_append_singleton] at hquiet
  cases r with
  | listRestores listed =>
      cases a with
      | error e =>
          exact Or.inr ⟨hquiet, rfl⟩
      | ok jobs =>
          by_cases hlisted : listed = scope
          · subst hlisted
            left
            have hall : (jobs.all fun r => !r.state.isInFlight) = true := by
              simpa [quietAfter] using hquiet
            refine ⟨jobs, rfl, fun r hr => ?_⟩
            have hr' := List.all_eq_true.mp hall r hr
            simpa using hr'
          · right
            simpa [quietAfter, hlisted, IsQuiet, Request.isCreateRestore] using hquiet
  | createRestore job =>
      cases hquiet
  | _ => exact Or.inr ⟨hquiet, rfl⟩

/-!
## What a cycle keeps
-/

/-- The jobs of the target can be read, not too many of them are open, and none is when it is known
to be quiet. -/
structure Exclusive (s : Settings) (bound : Nat) (h : History Server) (x : Store) : Prop where
  readable : x.RestoresReadable s.targetScope
  bounded : x.openRestores s.targetScope ≤ bound
  quiet : IsQuiet s.targetScope h → x.openRestores s.targetScope = 0

theorem Exclusive.drift (hd : RestoresAdvance s.targetScope x y) (hx : Exclusive s bound h x) :
    Exclusive s bound h y where
  readable := hd.readable
  bounded := Nat.le_trans hd.openRestores_le hx.bounded
  quiet hquiet := Nat.le_zero.mp (hx.quiet hquiet ▸ hd.openRestores_le)

theorem Exclusive.answer {r : Request} {a : Except Error r.Value} (hr : r.isCreateRestore = false)
    (ha : LossyAnswers x (.server r) a y) (hx : Exclusive s bound h x) :
    Exclusive s bound (h ++ [⟨.server r, a⟩]) y where
  readable := by
    rw [RestoresReadable, restoresIn_of_eq (ha.restores_eq hr)]
    exact hx.readable
  bounded := by
    rw [openRestores, restoresIn_of_eq (ha.restores_eq hr)]
    exact hx.bounded
  quiet hquiet := by
    rw [openRestores, restoresIn_of_eq (ha.restores_eq hr)]
    rcases isQuiet_append_cases hquiet with ⟨jobs, hlisting, hjobs⟩ | ⟨hbefore, _⟩
    · cases hlisting
      exact openRestores_eq_zero_of_listed hx.readable ha.of_ok.1 hjobs
    · exact hx.quiet hbefore

theorem Exclusive.submit {job : Restore} {a : Except Error Unit} (hbound : 1 ≤ bound)
    (hsubmits : Submits s h job) (ha : LossyAnswers x (.server (.createRestore job)) a y)
    (hx : Exclusive s bound h x) :
    Exclusive s bound (h ++ [⟨.server (.createRestore job), a⟩]) y := by
  have hnone : x.openRestores s.targetScope = 0 := hx.quiet hsubmits.quiet
  have hread : Restore.IsReadable job.toJson := by
    rw [Restore.IsReadable, Restore.ofStored?_toJson]
    rfl
  have hstored : y.restoresIn s.targetScope = x.restoresIn s.targetScope ∨
      y.restoresIn s.targetScope = x.restoresIn s.targetScope ++ [job.toJson] := by
    rcases ha.cases with ⟨rfl, _⟩ | ⟨rfl, _⟩
    · exact restoresIn_perform_createRestore x
    · exact Or.inl rfl
  have hbusy : ¬ IsQuiet s.targetScope (h ++ [⟨.server (.createRestore job), a⟩]) := by
    rw [isQuiet_append_singleton]
    exact Bool.false_ne_true
  rcases hstored with hsame | hmore
  · refine ⟨?_, ?_, fun hquiet => absurd hquiet hbusy⟩
    · rw [RestoresReadable, hsame]
      exact hx.readable
    · rw [openRestores, hsame]
      exact hx.bounded
  · refine ⟨?_, ?_, fun hquiet => absurd hquiet hbusy⟩
    · intro j hj
      rw [hmore] at hj
      rcases List.mem_append.mp hj with hold | hnew
      · exact hx.readable j hold
      · rw [List.mem_singleton.mp hnew]
        exact hread
    · have hone : [job.toJson].countP (fun j => !Restore.isFinal j) ≤ 1 := List.countP_le_length
      have hcount : y.openRestores s.targetScope =
          x.openRestores s.targetScope + [job.toJson].countP fun j => !Restore.isFinal j := by
        rw [openRestores, hmore, List.countP_append]
        rfl
      omega

theorem Exclusive.step (hbound : 1 ≤ bound) (hasks : Asks s h d) (ha : LossyAnswers x d a y)
    (hx : Exclusive s bound h x) : Exclusive s bound (h ++ [⟨d, a⟩]) y := by
  cases d with
  | stamp =>
      rw [ha.of_stamp]
      refine ⟨hx.readable, hx.bounded, fun hquiet => hx.quiet ?_⟩
      rwa [isQuiet_append_singleton] at hquiet
  | server r =>
      cases r with
      | createRestore job => exact hx.submit hbound hasks ha
      | _ => exact hx.answer rfl ha

/-!
## Whole runs
-/

theorem Exclusive.passes {log : History Server} {rest : Procedure Server (Except Error Outcome)}
    (hbound : 1 ≤ bound)
    (pass : Procedure.Passes (lossy (RestoresAdvance s.targetScope)) x (cycle s).run log y rest)
    (hx : Exclusive s bound [] x) :
    Exclusive s bound log y ∧ Procedure.Ensures (Asks s) (Ends s) rest log :=
  passes_cycle_keeps (Exclusive s bound) (fun _ _ _ hd hx => hx.drift hd)
    (fun _ _ _ _ _ hasks ha hx => hx.step hbound hasks ha) pass hx

theorem Exclusive.forget (hx : Exclusive s bound h x) : Exclusive s bound [] x where
  readable := hx.readable
  bounded := hx.bounded
  quiet hquiet := by cases hquiet

theorem restores_exclusive {start here now : Store} {past : List (Episode Store)}
    {log : History Server} {rest : Procedure Server (Except Error Outcome)}
    (hread : start.RestoresReadable s.targetScope)
    (run : Runs (lossy (RestoresAdvance s.targetScope)) s start past here)
    (pass : Procedure.Passes (lossy (RestoresAdvance s.targetScope)) here (cycle s).run log now
      rest) :
    now.openRestores s.targetScope ≤ max 1 (start.openRestores s.targetScope) ∧
      ∀ job next, rest = .ask (.server (.createRestore job)) next →
        ∀ j ∈ now.restoresIn s.targetScope, Restore.isFinal j = true := by
  have hbound := Nat.le_max_left 1 (start.openRestores s.targetScope)
  have hstart : Exclusive s (max 1 (start.openRestores s.targetScope)) [] start :=
    ⟨hread, Nat.le_max_right _ _, fun hquiet => by cases hquiet⟩
  have hhere : Exclusive s (max 1 (start.openRestores s.targetScope)) [] here :=
    run.keeps (fun _ _ _ _ pass hx => (hx.passes hbound pass).1.forget) hstart
  obtain ⟨hnow, hrest⟩ := hhere.passes hbound pass
  refine ⟨hnow.bounded, ?_⟩
  rintro job next rfl
  have hsubmits : Submits s log job := hrest.1
  exact openRestores_eq_zero_iff.mp (hnow.quiet hsubmits.quiet)

/-- A cycle has given up waiting for its job, and the next one finds the job at work. -/
theorem restores_exclusive_abandoned :
    (exampleCycle id exampleStore).2.2.openRestores "standby" = 1 ∧
      (exampleCycle id (exampleCycle id exampleStore).2.2).2.2.openRestores "standby" ≤
        max 1 (exampleStore.openRestores "standby") := by
  refine ⟨by decide +kernel, ?_⟩
  have hread : exampleStore.RestoresReadable exampleSettings.targetScope := by
    intro j hj
    cases hj
  have hpass (x : Store) := passes_lossy (passes_exampleCycle
    (RestoresAdvance exampleSettings.targetScope) id (fun _ => Or.inl rfl) x)
  exact (restores_exclusive hread (Runs.episode (Runs.start _) (hpass exampleStore))
    (hpass _)).1

/-!
## A job at work

Listings leave out objects that cannot be read as jobs, so that such an object keeps nobody from
submitting, even if it says that it is at work.  Every other job at work does, those included whose
metadata make the whole list unreadable.
-/

/-- The target has a running job, and a cycle has neither taken it for quiet nor submitted. -/
structure Occupied (s : Settings) (h : History Server) (x : Store) : Prop where
  running : x.HasRunning s.targetScope
  notQuiet : ¬ IsQuiet s.targetScope h
  nothingSubmitted : Never IsSubmission h

theorem Occupied.not_submits {job : Restore} (hx : Occupied s h x) : ¬ Submits s h job :=
  fun hsubmits => hx.notQuiet hsubmits.quiet

theorem Occupied.step (hasks : Asks s h d) (ha : LossyAnswers x d a y) (hx : Occupied s h x) :
    Occupied s (h ++ [⟨d, a⟩]) y := by
  cases d with
  | stamp =>
      rw [ha.of_stamp]
      refine ⟨hx.running, ?_, ?_⟩
      · rw [isQuiet_append_singleton]
        exact hx.notQuiet
      · apply hx.nothingSubmitted.append
        exact never_singleton (not_isSubmission_of_ne fun _ hd => by cases hd)
  | server r =>
      have hr : r.isCreateRestore = false := by
        cases r with
        | createRestore job => exact absurd hasks hx.not_submits
        | _ => rfl
      refine ⟨?_, ?_, ?_⟩
      · unfold HasRunning
        rw [restoresIn_of_eq (ha.restores_eq hr)]
        exact hx.running
      · intro hquiet
        rcases isQuiet_append_cases hquiet with ⟨jobs, hlisting, hjobs⟩ | ⟨hbefore, _⟩
        · cases hlisting
          obtain ⟨r, hmem, hbusy⟩ := hx.running.listed ha.of_ok.1
          rw [hjobs r hmem] at hbusy
          cases hbusy
        · exact hx.notQuiet hbefore
      · apply hx.nothingSubmitted.append
        apply never_singleton
        rintro ⟨job, hjob⟩
        cases hjob
        cases hr

theorem no_submission_of_hasRunning {others : Store → Store → Prop} {start now : Store}
    {log : History Server} {rest : Procedure Server (Except Error Outcome)}
    (hothers : ∀ x y, others x y → x.HasRunning s.targetScope → y.HasRunning s.targetScope)
    (hstart : start.HasRunning s.targetScope)
    (pass : Procedure.Passes (lossy others) start (cycle s).run log now rest) :
    Never IsSubmission log ∧
      ∀ job next, rest ≠ .ask (.server (.createRestore job)) next := by
  have hbegin : Occupied s [] start :=
    ⟨hstart, fun hquiet => (by cases hquiet), fun e he => (by cases he)⟩
  obtain ⟨hnow, hrest⟩ := passes_cycle_keeps (Occupied s)
    (fun _ x y hd hx => ⟨hothers x y hd hx.running, hx.notQuiet, hx.nothingSubmitted⟩)
    (fun _ _ _ _ _ hasks ha hx => hx.step hasks ha) pass hbegin
  refine ⟨hnow.nothingSubmitted, ?_⟩
  rintro job next rfl
  exact hnow.not_submits hrest.1

/-- A job without a status beside a backup to restore. -/
theorem no_submission_beside_new_job :
    let job : Json := .obj
      [("metadata", .obj [("name", .str "r1"), ("namespace", .str "standby")]),
        ("spec", .obj [("pxcCluster", .str "standby1")])]
    Never IsSubmission (exampleLog id { exampleStore with restores := [job] }) := by
  intro job
  have hread : (Restore.ofStored? job).isSome = true := by decide +kernel
  have hrunning :
      HasRunning exampleSettings.targetScope { exampleStore with restores := [job] } := by
    refine ⟨job, mem_restoresIn.mpr ⟨List.mem_singleton_self _, by decide⟩, ?_, ?_⟩
    · rintro ⟨hnone, _⟩
      rw [hnone] at hread
      cases hread
    · intro word _ hword
      cases hword
  have hpass := passes_lossy (passes_exampleCycle (fun _ _ => False) id (fun _ => Or.inl rfl)
    { exampleStore with restores := [job] })
  exact (no_submission_of_hasRunning (fun _ _ hd => hd.elim) hrunning hpass).1

/-- An object that says it is a running job, but not of which cluster, is overlooked. -/
theorem submission_beside_overlooked_job :
    ¬ ∀ (s : Settings) (start now : Store) (log : History Server)
        (rest : Procedure Server (Except Error Outcome)),
      (∃ j ∈ start.restoresIn s.targetScope, Restore.IsAtWork j) →
      Procedure.Passes (faulty fun _ _ => False) start (cycle s).run log now rest →
      Never IsSubmission log := by
  intro hall
  let job : Json := .obj
    [("metadata", .obj [("name", .str "r1"), ("namespace", .str "standby")]),
      ("status", .obj [("state", .str "Running")])]
  have hwork : Restore.IsAtWork job := by
    unfold Restore.IsAtWork
    decide +kernel
  have hnever := hall exampleSettings { exampleStore with restores := [job] } _ _ _
    ⟨job, mem_restoresIn.mpr ⟨List.mem_singleton_self _, by decide⟩, hwork⟩
    (passes_exampleCycle _ id (fun _ => Or.inl rfl) _)
  have hsubmitted :
      ¬ Never IsSubmission (exampleLog id { exampleStore with restores := [job] }) := by
    decide +kernel
  exact hsubmitted hnever

end Standby
end PointInTime
