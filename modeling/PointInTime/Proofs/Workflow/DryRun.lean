import PointInTime.Proofs.Workflow.CarryingOut

/-!
# A plan as a dry run

A plan says what would be created.  When nobody else writes and the plan is not blocked, a restore
creates nothing else, in the same order, whichever of its requests fail once it is planned; and it
creates all of it if none does.

Whether it can be started is not said by the plan alone: a namespace that has to be created needs a
name that it can be created under, and that is looked at only when it is created.
-/

namespace PointInTime
namespace Workflow

variable {stamp : Stamp} {o : RestoreOptions} {c : Clock} {x : Store} {p : Plan}

/-!
## From the plan to the store
-/

theorem admits_of_plan
    (hplan : (Procedure.run (Store.serving id stamp) (plan o).run c x).1 = Except.ok p)
    (hfree : p.isBlocked = false) :
    (Procedure.run (Store.serving id stamp) (plan o).run c x).2.2 = x ∧ Admits x p := by
  have hplan : x.outcome stamp c (plan o) = Except.ok p := hplan
  rcases Store.ends_of_looking stamp c x (ensures_plan o []) with ⟨hbears, hsurveyed⟩
  rw [hplan] at hsurveyed
  rw [Store.run_eq_of_looks (Operation.looks_of_ensures (ensures_plan o)) (prompt_plan o)]
  exact ⟨rfl, hsurveyed.admits hbears hfree⟩

/-!
## What is created
-/

theorem creations_follow_plan {faults : Nat → Option Error}
    (hplan : (Procedure.run (Store.serving id stamp) (plan o).run c x).1 = Except.ok p)
    (hfree : p.isBlocked = false)
    (hfaults : ∀ n < (Procedure.exchanges (Store.serving id stamp) (plan o).run c x).length,
      faults n = none) :
    let log := Procedure.exchanges (Store.failing faults stamp) (execute o).run c (0, x)
    let outcome := (Procedure.run (Store.failing faults stamp) (execute o).run c (0, x)).1
    List.SublistForall₂ (fun w a => Describes stamp a w) (creations log) p.actions ∧
      (AllSucceed log → outcome.isOk = true →
        List.Forall₂ (fun w a => Describes stamp a w) (creations log) p.actions) := by
  rcases admits_of_plan hplan hfree with ⟨hstate, hadmits⟩
  obtain ⟨hlog, m, hrun⟩ := Store.run_failing stamp (plan o).run c x
    (fun k hk (_ : 0 ≤ k) => hfaults k (by omega))
  rw [hplan, hstate] at hrun
  rw [execute_run, Procedure.exchanges_bind, Procedure.run_bind, hlog, hrun,
    afterPlan_of_not_refused (refusal?_ok_eq_none.mpr hfree)]
  -- Planning runs as it does without faults and creates nothing: the rest is what counts.
  have hlooks : creations (Procedure.exchanges (Store.serving id stamp) (plan o).run c x) = [] :=
    creations_of_looks (looks_of_plan _ o c x)
  have hends := Procedure.ends_of_ensuresIn (Store.failing faults stamp) Prod.snd
    (t := (m, x)) Store.alone_failing (ensuresIn_carryOut stamp False hadmits False.elim)
    (Procedure.run (Store.serving id stamp) (plan o).run c x).2.1
  simp only [creations_append, hlooks, List.nil_append]
  split at hends
  · rename_i submission houtcome
    exact ⟨hends.1.partly, fun hall _ => hends.1.wholly hall.append_right⟩
  · rename_i e houtcome
    refine ⟨hends.1, ?_⟩
    intro _ hok
    rw [houtcome] at hok
    cases hok

/-- Once the restore is planned, the first secret cannot be created. -/
def exampleFaults (n : Nat) : Option Error :=
  if n = 17 then some (.conflict "in the way") else none

theorem creations_follow_plan_past_conflict :
    let log := Procedure.exchanges (Store.failing exampleFaults exampleStamp)
      (execute (exampleOptions "dev")).run {} (0, exampleStore)
    ∃ p, (Procedure.run (Store.serving id exampleStamp) (plan (exampleOptions "dev")).run {}
        exampleStore).1 = Except.ok p ∧
      List.SublistForall₂ (fun w a => Describes exampleStamp a w) (creations log) p.actions ∧
      (creations log).length = 4 ∧ p.actions.length = 5 := by
  intro log
  have hplan : ((Procedure.run (Store.serving id exampleStamp) (plan (exampleOptions "dev")).run {}
      exampleStore).1.toOption.any fun p => !p.isBlocked && p.actions.length == 5) = true := by
    decide +kernel
  rcases exists_ok_of_any hplan with ⟨p, hp, hactions⟩
  simp only [Bool.and_eq_true, Bool.not_eq_true', beq_iff_eq] at hactions
  have hfaults : ∀ n < (Procedure.exchanges (Store.serving id exampleStamp)
      (plan (exampleOptions "dev")).run {} exampleStore).length, exampleFaults n = none := by
    have hlength : (Procedure.exchanges (Store.serving id exampleStamp)
        (plan (exampleOptions "dev")).run {} exampleStore).length = 12 := by
      decide +kernel
    intro n hn
    have hearly : n ≠ 17 := by omega
    exact if_neg hearly
  exact ⟨p, hp, (creations_follow_plan hp hactions.1 hfaults).1, by decide +kernel, hactions.2⟩

/-!
## Whether it can be started
-/

theorem succeeds_of_granted {h : History Server} {s : Store} {d : Demand}
    (hd : Granted True h s d) : Succeeds ⟨d, (Store.serving id stamp d s).1⟩ := by
  cases d with
  | stamp => trivial
  | server r =>
      rcases hd trivial with ⟨v, hv⟩
      have hanswer : (Store.serving id stamp (.server r) s).1 = Except.ok v := hv
      rw [hanswer]
      trivial

theorem starts_iff_isNamed
    (hplan : (Procedure.run (Store.serving id stamp) (plan o).run c x).1 = Except.ok p)
    (hfree : p.isBlocked = false)
    (hunused : Store.find? p.targetScope (Name.forJob p.targetCluster stamp.time stamp.nonce)
      x.restores = none) :
    (Procedure.run (Store.serving id stamp) (execute o).run c x).1.isOk = true ↔ IsNamed p := by
  rcases admits_of_plan hplan hfree with ⟨hstate, hadmits⟩
  have hcarry := ensuresIn_carryOut stamp True hadmits (fun _ => hunused)
  have hends := Procedure.ends_of_ensuresIn (Store.serving id stamp) id
    Store.alone_serving hcarry (Procedure.run (Store.serving id stamp) (plan o).run c x).2.1
  have hall : AllSucceed (Procedure.exchanges (Store.serving id stamp) (carryOut p).run
      (Procedure.run (Store.serving id stamp) (plan o).run c x).2.1 x) :=
    Procedure.forall_exchanges_of_ensuresIn id Store.alone_serving
      (fun _ _ _ hd => succeeds_of_granted hd) hcarry _
  rw [execute_run, Procedure.run_bind, hplan, hstate,
    afterPlan_of_not_refused (refusal?_ok_eq_none.mpr hfree)]
  split at hends
  · rename_i submission houtcome
    rw [houtcome]
    exact ⟨fun _ => hends.2, fun _ => rfl⟩
  · rename_i e houtcome
    rw [houtcome]
    exact ⟨fun hok => absurd hok (by simp [Except.isOk, Except.toBool]),
      fun hnamed => absurd hnamed (hends.2 hall)⟩

theorem starts_in_new_namespace :
    (Procedure.run (Store.serving id exampleStamp) (execute (exampleOptions "dev")).run {}
      exampleStore).1.isOk = true := by
  have hplan : ((Procedure.run (Store.serving id exampleStamp) (plan (exampleOptions "dev")).run {}
      exampleStore).1.toOption.any fun p => !p.isBlocked && p.targetScope == "dev") = true := by
    decide +kernel
  rcases exists_ok_of_any hplan with ⟨p, hp, hscope⟩
  simp only [Bool.and_eq_true, Bool.not_eq_true', beq_iff_eq] at hscope
  have hnamed : IsNamed p := by
    intro _
    rw [hscope.2]
    rfl
  exact (starts_iff_isNamed hp hscope.1 rfl).mpr hnamed

/-- A namespace that is missing and that no namespace can be called: the plan has no blocker. -/
theorem clean_plan_not_started :
    ¬ ∀ (stamp : Stamp) (o : RestoreOptions) (c : Clock) (x : Store) (p : Plan),
      (Procedure.run (Store.serving id stamp) (plan o).run c x).1 = Except.ok p →
      p.isBlocked = false →
      Store.find? p.targetScope (Name.forJob p.targetCluster stamp.time stamp.nonce)
        x.restores = none →
      (Procedure.run (Store.serving id stamp) (execute o).run c x).1.isOk = true := by
  intro hall
  have hplan : ((Procedure.run (Store.serving id exampleStamp)
      (plan (exampleOptions "Staging_1")).run {} exampleStore).1.toOption.any
        fun p => !p.isBlocked) = true := by
    decide +kernel
  rcases exists_ok_of_any hplan with ⟨p, hp, hfree⟩
  rw [Bool.not_eq_true'] at hfree
  have hstarts := hall exampleStamp _ _ _ p hp hfree rfl
  have hfails : (Procedure.run (Store.serving id exampleStamp)
      (execute (exampleOptions "Staging_1")).run {} exampleStore).1.isOk = false := by
    decide +kernel
  rw [hstarts] at hfails
  cases hfails

end Workflow
end PointInTime
