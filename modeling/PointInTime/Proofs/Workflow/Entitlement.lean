import PointInTime.Proofs.Restore.Job
import PointInTime.Proofs.Workflow.Credentials
import PointInTime.Proofs.Workflow.Refusal

/-!
# When a restore may submit its job

A restore submits a job only for a cluster that it has created itself, at the place that it has
planned for, and it does not succeed without having done so.  This is independent of what it is
answered, and therefore of what others do to the server.

Main statement: `ensures_execute`.
-/

namespace PointInTime

open Operation

/-!
## What never submits a job
-/

def Sparing (_ : History Server) : Demand → Prop
  | .server r => r.isCreateRestore = false
  | .stamp => True

theorem Demand.IsLook.sparing {d : Demand} (hd : d.IsLook) (h : History Server) :
    Sparing h d := by
  cases d with
  | stamp => trivial
  | server r => cases r <;> first | rfl | cases hd

theorem Clone.Asks.sparing {req : Clone.Request} {h : History Server} {d : Demand}
    (hd : Clone.Asks req h d) : Sparing h d := by
  cases d with
  | stamp => trivial
  | server r =>
      cases r with
      | createSecret scope copy => rfl
      | createCluster c => rfl
      | _ =>
          apply Demand.IsLook.sparing
          exact hd

/-!
## What a clone has done
-/

/-- A cluster was created at a place. -/
def HasCreated (h : History Server) (scope name : String) : Prop :=
  ∃ c : Cluster, Heard h (.createCluster c) () ∧ Store.placeOf c.toJson = (scope, name)

theorem HasCreated.append {h : History Server} {scope name : String}
    (hc : HasCreated h scope name) (more : History Server) : HasCreated (h ++ more) scope name := by
  rcases hc with ⟨c, hheard, hplace⟩
  exact ⟨c, hheard.append more, hplace⟩

theorem Clone.Cloned.hasCreated {req : Clone.Request} {h : History Server}
    (hc : Clone.Cloned req h) : HasCreated h req.targetScope req.targetCluster := by
  obtain ⟨cluster, _, hcreated⟩ := hc
  exact ⟨_, hcreated, Store.placeOf_cloneFor _ _ _⟩

namespace Workflow

/-!
## What a restore is entitled to
-/

/-- A plan has been made at the beginning of a history. -/
def Planned (o : RestoreOptions) (h : History Server) (p : Plan) : Prop :=
  ∃ before after, h = before ++ after ∧ Procedure.Leads (plan o).run before (Except.ok p)

/-- The place was planned for, and the cluster there is this restore's own. -/
def Entitled (o : RestoreOptions) (h : History Server) (scope name : String) : Prop :=
  (∃ p, Planned o h p ∧ p.targetScope = scope ∧ p.targetCluster = name) ∧
    HasCreated h scope name

def Asks (o : RestoreOptions) (h : History Server) : Demand → Prop
  | .server (.createRestore job) => Entitled o h job.metadata.scope job.spec.cluster
  | _ => True

variable {o : RestoreOptions} {h : History Server} {p : Plan}

theorem Planned.append (hp : Planned o h p) (more : History Server) :
    Planned o (h ++ more) p := by
  rcases hp with ⟨before, after, rfl, hlead⟩
  exact ⟨before, after ++ more, List.append_assoc _ _ _, hlead⟩

theorem Entitled.append {scope name : String} (he : Entitled o h scope name)
    (more : History Server) : Entitled o (h ++ more) scope name := by
  rcases he with ⟨⟨p, hp, hscope, hname⟩, hcreated⟩
  exact ⟨⟨p, hp.append more, hscope, hname⟩, hcreated.append more⟩

theorem Planned.target (hp : Planned o h p) :
    p.targetScope = o.target ∧ ∀ name, o.targetCluster = some name → p.targetCluster = name := by
  rcases hp with ⟨before, _, _, hlead⟩
  have hsurveyed : Surveyed o ([] ++ before) p := hlead.ends (ensures_plan o [])
  obtain ⟨source, backup, window, instant, storageName, doesExist, clone, _, _,
    ⟨_, _, _, _, _, _, rfl⟩, rfl⟩ := hsurveyed
  refine ⟨rfl, ?_⟩
  intro name hname
  show targetName o source instant = name
  unfold targetName
  rw [hname]
  rfl

theorem asks_of_sparing {d : Demand} (hd : Sparing h d) : Asks o h d := by
  cases d with
  | stamp => trivial
  | server r => cases r <;> trivial

/-!
## The contract
-/

theorem ensures_cloneAndSubmit (hp : Planned o h p) :
    Ensures (Asks o) (fun h _ => ∃ scope name, Entitled o h scope name) (fun _ _ => True)
      (cloneAndSubmit p) h := by
  unfold cloneAndSubmit
  rw [Operation.ensures_bind]
  refine (Clone.ensures_run p.cloneRequest h).mono (fun _ _ hd => asks_of_sparing hd.sparing) ?_
    (fun _ _ hf => hf)
  intro more clone hcloned
  have hentitled : Entitled o (h ++ more) p.targetScope p.targetCluster :=
    ⟨⟨p, hp.append more, rfl, rfl⟩, hcloned.hasCreated⟩
  rw [Operation.ensures_bind]
  refine Job.ensures_submit trivial (fun _ _ _ _ => trivial) ?_
  intro stamp job hjob
  rcases Job.build_eq_ok hjob with ⟨_, hscope, _⟩
  refine ⟨?_, ?_, fun _ => trivial⟩
  · show Entitled o _ job.metadata.scope job.spec.cluster
    rw [hscope, Job.cluster_of_build hjob]
    exact hentitled.append _
  · exact ⟨_, _, (hentitled.append _).append _⟩

theorem ensures_carryOut (hp : Planned o h p) :
    Ensures (Asks o) (fun h _ => ∃ scope name, Entitled o h scope name) (fun _ _ => True)
      (carryOut p) h := by
  rw [carryOut_eq]
  split
  · unfold createNamespace
    rw [Operation.ensures_bind, Operation.ensures_bind, ensures_of]
    split
    · apply ensures_send.mpr
      exact ⟨trivial, fun _ => ensures_cloneAndSubmit (hp.append _), fun _ => trivial⟩
    · trivial
  · exact ensures_cloneAndSubmit hp

theorem ensures_execute (o : RestoreOptions) :
    Ensures (Asks o) (fun h _ => ∃ scope name, Entitled o h scope name) (fun _ _ => True)
      (execute o) [] := by
  rw [ensures_iff, execute_run, Procedure.ensures_bind]
  refine ((ensures_plan o []).and (Procedure.ensures_leads _ _)).mono ?_ ?_
  · intro more d hd
    exact asks_of_sparing (hd.1.sparing _)
  · rintro more (e | p) ⟨_, before, hbefore, hlead⟩
    · trivial
    · have hp : Planned o ([] ++ more) p :=
        ⟨before, [], by rw [hbefore, List.nil_append, List.append_nil], hlead⟩
      cases hrefusal : refusal? (Except.ok p) with
      | none =>
          rw [afterPlan_of_not_refused hrefusal]
          exact ensures_carryOut hp
      | some e =>
          rw [afterPlan_of_refusal hrefusal]
          trivial

end Workflow
end PointInTime
