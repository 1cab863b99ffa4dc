import PointInTime.Proofs.Restore.Job
import PointInTime.Proofs.Workflow.Copying
import PointInTime.Proofs.Workflow.Refusal

/-!
# Carrying out a plan alone

A plan that nothing blocks is carried out on the store that it was made from.  Its actions are gone
through in their order, and the only refusal that is not the server's is that of the name of a
namespace to be created, which planning has not looked at.

Main statement: `ensuresIn_carryOut`, in which `fresh` says that the name of the job is unused.
-/

namespace PointInTime

open Operation

namespace Workflow

variable {stamp : Stamp} {fresh : Prop} {done : List PlannedAction} {h : History Server}
variable {s : Store} {p : Plan}

/-!
## What a plan announces
-/

def namespaceActions (p : Plan) : List PlannedAction :=
  if p.createNamespace then [⟨"Namespace", p.targetScope, "", "create"⟩] else []

def jobAction (p : Plan) : PlannedAction :=
  ⟨Resource.Kind.restore, jobPattern p.targetCluster, p.targetScope,
    "restore " ++ p.backup.name ++ " to " ++ p.instant.format ++ " from storage " ++ p.storageName⟩

/-- A store on which a plan can be carried out. -/
structure Admits (s : Store) (p : Plan) : Prop where
  isReady : Clone.IsReady s p.cloneRequest p.clone.credentials
  hasDestination : ∃ destination, p.backup.destination = some destination
  actions : p.actions =
    namespaceActions p ++ Clone.copyActions p.cloneRequest p.clone.credentials ++
      [Clone.clusterAction p.cloneRequest] ++ [jobAction p]

theorem Surveyed.admits {o : RestoreOptions} (hp : Surveyed o h p) (hs : s.Bears h)
    (hfree : p.isBlocked = false) : Admits s p := by
  have hclear : IsClear p o.createNamespace := by
    rw [← hp.blockers_eq_nil]
    simpa [Plan.isBlocked] using hfree
  obtain ⟨source, backup, window, instant, storageName, doesExist, clone, hsource, hexists,
    ⟨cluster, existing, credentials, hcluster, hexisting, hall, rfl⟩, rfl⟩ := hp
  have hnone : existing = none := by
    have hcollision : existing.isSome = false := hclear.isFree
    simpa using hcollision
  subst hnone
  refine ⟨⟨⟨cluster, hs _ _ hcluster, ?_⟩, hs _ _ hexisting, hclear.isProvided⟩,
    (readSource_eq_ok hsource).2, ?_⟩
  · exact hall.imp fun _ _ hc => hc.holds hs
  · simp [assemble, actionsOf, namespaceActions, Clone.copyActions, Clone.copyAction,
      Clone.clusterAction, jobAction, Plan.cloneRequest]

/-!
## The job
-/

theorem describes_job {name storageName : String} {job : Restore}
    (hname : name = Name.forJob p.targetCluster stamp.time stamp.nonce)
    (hjob : Job.build name p.targetScope p.targetCluster p.backup p.instant storageName =
      Except.ok job) :
    ∃ w, Write.of? (.createRestore job) = some w ∧ Describes stamp (jobAction p) w := by
  rcases Job.build_eq_ok hjob with ⟨hjob_name, hjob_scope, _⟩
  refine ⟨_, rfl, rfl, hjob_scope, ?_⟩
  have hkind : (jobAction p).kind = Resource.Kind.restore := rfl
  rw [if_pos hkind]
  exact ⟨p.targetCluster, rfl, hjob_name.trans hname⟩

theorem ensuresIn_newStamp {returns : History Server → Store → Stamp → Prop}
    {fails : History Server → Store → Error → Prop}
    (hreturns : returns (h ++ [⟨.stamp, stamp⟩]) s stamp) :
    EnsuresIn (Store.alone stamp) (Granted fresh) returns fails
      (liftM Procedure.newStamp : Operation Stamp) h s := by
  rw [ensuresIn_lift]
  refine ⟨trivial, ?_⟩
  rintro x s' ⟨hx, hs⟩
  rw [hx, hs]
  exact hreturns

theorem ensuresIn_submit (hdestination : ∃ destination, p.backup.destination = some destination)
    (hfresh : fresh → Store.find? p.targetScope
      (Name.forJob p.targetCluster stamp.time stamp.nonce) s.restores = none)
    (ht : Tally stamp done h) :
    EnsuresIn (Store.alone stamp) (Granted fresh)
      (fun h' _ _ => Tally stamp (done ++ [jobAction p]) h')
      (fun h' _ _ => Tally stamp (done ++ [jobAction p]) h' ∧ ¬ AllSucceed h')
      (Job.submit p.targetScope p.targetCluster p.backup p.instant p.storageName) h s := by
  unfold Job.submit
  rw [ensuresIn_bind]
  apply ensuresIn_newStamp
  rw [ensuresIn_bind, ensuresIn_of]
  obtain ⟨job, hjob⟩ := Job.exists_build_of_destination
    (Name.forJob p.targetCluster stamp.time stamp.nonce) p.targetScope p.targetCluster p.instant
    p.storageName hdestination
  rw [hjob]
  rcases describes_job (p := p) rfl hjob with ⟨w, hw, hdescribes⟩
  show EnsuresIn _ _ _ _ (Operation.createRestore job >>= fun _ => _) _ _
  rw [ensuresIn_bind]
  -- Only the creation can still fail: the job is built from what the plan has checked.
  constructor
  · intro hunused
    rcases Job.build_eq_ok hjob with ⟨hname, hscope, _⟩
    have hplace : Store.placeOf job.toJson =
        (p.targetScope, Name.forJob p.targetCluster stamp.time stamp.nonce) := by
      rw [Store.placeOf_restore, hname, hscope]
    have hgranted := Store.perform_createRestore (s := s) (r := job)
      (by rw [hplace]; exact hfresh hunused)
    exact ⟨(), congrArg Prod.fst hgranted⟩
  · intro outcome s' hanswer
    cases outcome with
    | ok v => exact (ht.idle rfl).made hw hdescribes
    | error e =>
        have hfailed := not_allSucceed_of_error (h ++ [⟨.stamp, stamp⟩]) (.createRestore job) e
        exact ⟨((ht.idle rfl).idle rfl).extend hfailed _, hfailed⟩

/-!
## The plan
-/

/-- The namespace that a plan creates can be created under its name. -/
def IsNamed (p : Plan) : Prop :=
  p.createNamespace = true → Name.check p.targetScope Name.namespaceLimit = Except.ok ()

theorem ensuresIn_createNamespace (hmissing : p.createNamespace = true) :
    EnsuresIn (Store.alone stamp) (Granted fresh)
      (fun h' s' _ => Tally stamp (namespaceActions p) h' ∧ IsNamed p ∧
        ∃ namespaces, s' = { s with namespaces := namespaces })
      (fun h' _ _ => Began stamp (namespaceActions p) h' ∧ (AllSucceed h' → ¬ IsNamed p))
      (createNamespace p.targetScope) [] s := by
  have hactions : namespaceActions p = [⟨"Namespace", p.targetScope, "", "create"⟩] :=
    if_pos hmissing
  unfold createNamespace
  rw [ensuresIn_bind, ensuresIn_of, hactions]
  cases hcheck : Name.check p.targetScope Name.namespaceLimit with
  | error e =>
      refine ⟨List.SublistForall₂.nil, fun _ hnamed => ?_⟩
      rw [hnamed hmissing] at hcheck
      cases hcheck
  | ok _ =>
      have hnamed : IsNamed p := fun _ => hcheck
      have hgranted : s.perform (.createNamespace p.targetScope) =
          (Except.ok (), (s.perform (.createNamespace p.targetScope)).2) := rfl
      have hstore : ∃ namespaces, (s.perform (.createNamespace p.targetScope)).2 =
          { s with namespaces := namespaces } := by
        simp only [Store.perform]
        split
        · exact ⟨s.namespaces, rfl⟩
        · exact ⟨_, rfl⟩
      obtain ⟨w, hw, hdescribes⟩ : ∃ w, Write.of? (.createNamespace p.targetScope) = some w ∧
          Describes stamp ⟨"Namespace", p.targetScope, "", "create"⟩ w :=
        ⟨_, rfl, describes_of_name rfl rfl rfl
          (show "Namespace" ≠ Resource.Kind.restore by decide)⟩
      refine ensuresIn_creation hgranted hw hdescribes tally_nil ?_ ?_
      · exact fun h' ht' => ⟨ht', hnamed, hstore⟩
      · exact fun h' e ht' hfailed => ⟨ht'.partly, fun hall => absurd hall hfailed⟩

theorem ensuresIn_cloneAndSubmit (hadmits : Admits s p) (hnamed : IsNamed p)
    (hfresh : fresh → Store.find? p.targetScope
      (Name.forJob p.targetCluster stamp.time stamp.nonce) s.restores = none)
    (ht : Tally stamp (namespaceActions p) h) :
    EnsuresIn (Store.alone stamp) (Granted fresh)
      (fun h' _ _ => Tally stamp p.actions h' ∧ IsNamed p)
      (fun h' _ _ => Began stamp p.actions h' ∧ (AllSucceed h' → ¬ IsNamed p))
      (cloneAndSubmit p) h s := by
  unfold cloneAndSubmit
  rw [ensuresIn_bind]
  refine (Clone.ensuresIn_run hadmits.isReady ht).mono ?_ ?_
  · rintro h₁ s₁ clone ⟨ht₁, hrestores⟩
    rw [ensuresIn_bind]
    refine (ensuresIn_submit hadmits.hasDestination (hrestores ▸ hfresh) ht₁).mono ?_ ?_
    · intro h₂ s₂ job ht₂
      rw [ensuresIn_pure, hadmits.actions]
      exact ⟨ht₂, hnamed⟩
    · rintro h₂ s₂ e ⟨ht₂, hfailed⟩
      rw [hadmits.actions]
      exact ⟨ht₂.partly, fun hall => absurd hall hfailed⟩
  · rintro h₁ s₁ e ⟨ht₁, hfailed⟩
    rw [hadmits.actions]
    exact ⟨ht₁.partly.extend _, fun hall => absurd hall hfailed⟩

theorem ensuresIn_carryOut (stamp : Stamp) (fresh : Prop) (hadmits : Admits s p)
    (hfresh : fresh → Store.find? p.targetScope
      (Name.forJob p.targetCluster stamp.time stamp.nonce) s.restores = none) :
    EnsuresIn (Store.alone stamp) (Granted fresh)
      (fun h' _ _ => Tally stamp p.actions h' ∧ IsNamed p)
      (fun h' _ _ => Began stamp p.actions h' ∧ (AllSucceed h' → ¬ IsNamed p))
      (carryOut p) [] s := by
  rw [carryOut_eq]
  split
  · rename_i hmissing
    -- A namespace more is a store on which the rest can be carried out as before.
    rw [ensuresIn_bind]
    refine (ensuresIn_createNamespace hmissing).mono ?_ ?_
    · rintro h₁ _ _ ⟨ht₁, hnamed, namespaces, rfl⟩
      have hadmits₁ : Admits { s with namespaces := namespaces } p :=
        ⟨⟨hadmits.isReady.source, hadmits.isReady.isFree, hadmits.isReady.isProvided⟩,
          hadmits.hasDestination, hadmits.actions⟩
      exact ensuresIn_cloneAndSubmit hadmits₁ hnamed hfresh ht₁
    · rintro h₁ s₁ e ⟨hb₁, hfailed⟩
      rw [hadmits.actions, List.append_assoc, List.append_assoc]
      exact ⟨hb₁.extend _, hfailed⟩
  · rename_i hexists
    have hnothing : namespaceActions p = [] := if_neg hexists
    have hnamed : IsNamed p := fun hmissing => absurd hmissing hexists
    exact ensuresIn_cloneAndSubmit hadmits hnamed hfresh (hnothing ▸ tally_nil)

end Workflow
end PointInTime
