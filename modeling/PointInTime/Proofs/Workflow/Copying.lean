import PointInTime.Proofs.Server.Places
import PointInTime.Proofs.Workflow.Tally

/-!
# Cloning alone

A clone that nobody interferes with finds the credentials as they were planned, since what it
creates on the way hides none of them.  The namespace it copies to gets what was planned for it, in
the order of the plan, however many of its requests fail.

Main statement: `ensuresIn_run`, for a store that still is as the preview says.
-/

namespace PointInTime

open Operation

/-!
## Single requests
-/

/-- The server can grant what is asked for. -/
def Granted (fresh : Prop) (_ : History Server) (s : Store) : Demand → Prop
  | .server r => fresh → ∃ v, (s.perform r).1 = Except.ok v
  | .stamp => True

namespace Workflow

variable {stamp : Stamp} {fresh : Prop} {actions : List PlannedAction} {h : History Server}
variable {s : Store}

theorem ensuresIn_look {r : Request} {v : r.Value}
    {returns : History Server → Store → r.Value → Prop}
    {fails : History Server → Store → Error → Prop} (hlook : r.isLook = true)
    (hv : (s.perform r).1 = Except.ok v) (ht : Tally stamp actions h)
    (hreturns : ∀ h', Tally stamp actions h' → returns h' s v)
    (hfails : ∀ h' e, Tally stamp actions h' → ¬ AllSucceed h' → fails h' s e) :
    EnsuresIn (Store.alone stamp) (Granted fresh) returns fails (send r) h s := by
  have hnone : Write.of? r = none := by
    rw [← Option.not_isSome_iff_eq_none, Write.isSome_of?, Request.isWrite_of_isLook hlook]
    simp
  apply ensuresIn_send (Prod.ext hv (Store.perform_of_isLook hlook s))
  · exact fun _ => ⟨v, hv⟩
  · exact hreturns _ (ht.idle hnone)
  · intro e
    exact hfails _ e (ht.idle rfl) (not_allSucceed_of_error h r e)

theorem ensuresIn_creation {r : Request} {v : r.Value} {w : Write} {a : PlannedAction} {s' : Store}
    {returns : History Server → Store → r.Value → Prop}
    {fails : History Server → Store → Error → Prop}
    (hgranted : s.perform r = (Except.ok v, s')) (hw : Write.of? r = some w)
    (ha : Describes stamp a w) (ht : Tally stamp actions h)
    (hreturns : ∀ h', Tally stamp (actions ++ [a]) h' → returns h' s' v)
    (hfails : ∀ h' e, Tally stamp (actions ++ [a]) h' → ¬ AllSucceed h' → fails h' s e) :
    EnsuresIn (Store.alone stamp) (Granted fresh) returns fails (send r) h s := by
  apply ensuresIn_send hgranted
  · exact fun _ => ⟨v, by rw [hgranted]⟩
  · exact hreturns _ (ht.made hw ha)
  · intro e
    have hfailed := not_allSucceed_of_error h r e
    exact hfails _ e ((ht.idle rfl).extend hfailed [a]) hfailed

end Workflow

namespace Clone

open Workflow

/-!
## Credentials
-/

theorem secrets_addCredential (restoreStorage : Option String) (refs : List CredentialRef)
    (cred : StorageCredential) :
    (addCredential restoreStorage refs cred).map (·.secret) =
      if cred.secretName ∈ refs.map (·.secret) then refs.map (·.secret)
      else refs.map (·.secret) ++ [cred.secretName] := by
  have hlisted : refs.any (·.secret == cred.secretName) = true ↔
      cred.secretName ∈ refs.map (·.secret) := by
    simp [List.any_eq_true, List.mem_map]
  unfold addCredential
  simp only [hlisted]
  split
  · rw [List.map_map]
    apply List.map_congr_left
    intro ref _
    simp only [Function.comp_apply]
    split <;> rfl
  · exact List.map_append

theorem nodup_addCredential {restoreStorage : Option String} {refs : List CredentialRef}
    (hrefs : (refs.map (·.secret)).Nodup) (cred : StorageCredential) :
    ((addCredential restoreStorage refs cred).map (·.secret)).Nodup := by
  rw [secrets_addCredential]
  split
  · exact hrefs
  · rename_i hnew
    rw [List.nodup_append]
    refine ⟨hrefs, List.pairwise_singleton _ _, ?_⟩
    rintro name hname _ hcred rfl
    cases List.mem_singleton.mp hcred
    exact hnew hname

/-- A secret is named once. -/
theorem nodup_credentialRefs (c : Cluster) (restoreStorage : Option String) :
    ((credentialRefs c restoreStorage).map (·.secret)).Nodup := by
  have hfold (creds : List StorageCredential) (refs : List CredentialRef)
      (hrefs : (refs.map (·.secret)).Nodup) :
      ((creds.foldl (addCredential restoreStorage) refs).map (·.secret)).Nodup := by
    induction creds generalizing refs with
    | nil => exact hrefs
    | cons cred rest ih => exact ih _ (nodup_addCredential hrefs cred)
  exact hfold _ _ (by simp)

/-- A credential is in the namespaces in which it is planned to be. -/
def Holds (s : Store) (req : Request) (ref : CredentialRef) (c : CredentialPlan) : Prop :=
  ∃ inSource inTarget : Option Secret,
    (s.perform (.getSecret req.sourceScope ref.secret)).1 = Except.ok inSource ∧
      (s.perform (.getSecret req.targetScope ref.secret)).1 = Except.ok inTarget ∧
      c = ⟨ref.secret, ref.essential, ref.purpose, inSource.isSome, inTarget.isSome⟩

theorem Seen.holds {req : Request} {h : History Server} {ref : CredentialRef} {c : CredentialPlan}
    {s : Store} (hs : s.Bears h) (hc : Seen req h ref c) : Holds s req ref c := by
  rcases hc with ⟨inSource, inTarget, hsource, htarget, rfl⟩
  exact ⟨inSource, inTarget, hs _ _ hsource, hs _ _ htarget, rfl⟩

/-- Everything is as it was but for the secrets of one name. -/
structure Kept (name : String) (s s' : Store) : Prop where
  clusters : s'.clusters = s.clusters
  restores : s'.restores = s.restores
  secrets : ∀ scope other, other ≠ name →
    Store.find? scope other s'.secrets = Store.find? scope other s.secrets

theorem kept_refl (name : String) (s : Store) : Kept name s s :=
  ⟨rfl, rfl, fun _ _ _ => rfl⟩

theorem Kept.holds {name : String} {s s' : Store} {req : Request} {ref : CredentialRef}
    {c : CredentialPlan} (hs : Kept name s s') (hname : ref.secret ≠ name)
    (hc : Holds s req ref c) : Holds s' req ref c := by
  rcases hc with ⟨inSource, inTarget, hsource, htarget, rfl⟩
  have hread (scope : String) : (s'.perform (.getSecret scope ref.secret)).1 =
      (s.perform (.getSecret scope ref.secret)).1 :=
    congrArg (Store.readOne Secret.ofJson?) (hs.secrets scope ref.secret hname)
  exact ⟨inSource, inTarget, (hread _).trans hsource, (hread _).trans htarget, rfl⟩

theorem Kept.forall₂_holds {name : String} {s s' : Store} {req : Request}
    {refs : List CredentialRef} {credentials : List CredentialPlan} (hs : Kept name s s')
    (hname : name ∉ refs.map (·.secret)) (hall : List.Forall₂ (Holds s req) refs credentials) :
    List.Forall₂ (Holds s' req) refs credentials := by
  induction hall with
  | nil => exact List.Forall₂.nil
  | @cons ref c refs credentials hc hrest ih =>
      rw [List.map_cons, List.mem_cons, not_or] at hname
      exact List.Forall₂.cons (hs.holds (Ne.symm hname.1) hc) (ih hname.2)

def copyAction (req : Request) (c : CredentialPlan) : PlannedAction :=
  ⟨"Secret", c.secret, req.targetScope, "copy from " ++ req.sourceScope⟩

def copyActions (req : Request) (credentials : List CredentialPlan) : List PlannedAction :=
  (credentials.filter (·.willCopy)).map (copyAction req)

theorem copyActions_cons (req : Request) (c : CredentialPlan) (rest : List CredentialPlan) :
    copyActions req (c :: rest) = copyActions req [c] ++ copyActions req rest := by
  cases hc : c.willCopy <;> simp [copyActions, hc]

theorem copyActions_of_not_willCopy {req : Request} {c : CredentialPlan}
    (hc : c.willCopy = false) : copyActions req [c] = [] := by
  simp [copyActions, hc]

/-!
## Copying
-/

section

variable {stamp : Stamp} {fresh : Prop} {done : List PlannedAction} {h : History Server}
variable {s : Store} {req : Request}

theorem ensuresIn_createCopy {secret : Secret} {c : CredentialPlan}
    (hread : (s.perform (.getSecret req.sourceScope c.secret)).1 = Except.ok (some secret))
    (hfree : (s.perform (.getSecret req.targetScope c.secret)).1 = Except.ok none)
    (ht : Tally stamp done h) :
    EnsuresIn (Store.alone stamp) (Granted fresh)
      (fun h' s' _ => Tally stamp (done ++ [copyAction req c]) h' ∧ Kept c.secret s s')
      (fun h' s' _ => (Tally stamp (done ++ [copyAction req c]) h' ∧ Kept c.secret s s') ∧
        ¬ AllSucceed h')
      (createCopy req secret) h s := by
  rcases Store.readOne_eq_some hread with ⟨j, hj, hsecret⟩
  have hname : secret.metadata.name.getD "" = c.secret := by
    rw [Store.name_of_secret hsecret, Store.placeOf_of_find? hj]
  have hplace : Store.placeOf (secret.copyTo req.sourceScope req.targetScope).toJson =
      (req.targetScope, c.secret) := by
    rw [Store.placeOf_copyTo, hname]
  have hunused : Store.find?
      (Store.placeOf (secret.copyTo req.sourceScope req.targetScope).toJson).1
      (Store.placeOf (secret.copyTo req.sourceScope req.targetScope).toJson).2 s.secrets =
        none := by
    rw [hplace]
    exact Store.readOne_eq_none hfree
  have hgranted := Store.perform_createSecret req.targetScope hunused
  obtain ⟨w, hw, hdescribes⟩ : ∃ w, Write.of? (.createSecret req.targetScope
      (secret.copyTo req.sourceScope req.targetScope)) = some w ∧
        Describes stamp (copyAction req c) w :=
    ⟨_, rfl, describes_of_name rfl rfl hname (show "Secret" ≠ Resource.Kind.restore by decide)⟩
  have hkept : Kept c.secret s
      { s with
        secrets := s.secrets ++ [(secret.copyTo req.sourceScope req.targetScope).toJson] } := by
    refine ⟨rfl, rfl, ?_⟩
    intro scope other hother
    apply Store.find?_append_of_ne
    rw [hplace]
    simp [Ne.symm hother]
  have hcreate : EnsuresIn (Store.alone stamp) (Granted fresh)
      (fun h' s' _ => Tally stamp (done ++ [copyAction req c]) h' ∧ Kept c.secret s s')
      (fun h' s' _ => (Tally stamp (done ++ [copyAction req c]) h' ∧ Kept c.secret s s') ∧
        ¬ AllSucceed h')
      (Operation.createSecret req.targetScope (secret.copyTo req.sourceScope req.targetScope))
      h s := by
    refine ensuresIn_creation hgranted hw hdescribes ht ?_ ?_
    · exact fun h' ht' => ⟨ht', hkept⟩
    · exact fun h' e ht' hfailed => ⟨⟨ht', kept_refl _ s⟩, hfailed⟩
  show Procedure.EnsuresIn _ _ _ (Procedure.bind _ _) h s
  rw [Procedure.ensuresIn_bind]
  refine Procedure.EnsuresIn.mono ?_ hcreate
  rintro h' s' (e | ⟨⟩) hends
  · cases e with
    | conflict message => exact hends.1
    | _ => exact hends
  · exact hends

theorem ensuresIn_copySecret {ref : CredentialRef} {c : CredentialPlan} (hc : Holds s req ref c)
    (ht : Tally stamp done h) :
    EnsuresIn (Store.alone stamp) (Granted fresh)
      (fun h' s' _ => Tally stamp (done ++ copyActions req [c]) h' ∧ Kept ref.secret s s')
      (fun h' s' _ => (Tally stamp (done ++ copyActions req [c]) h' ∧ Kept ref.secret s s') ∧
        (AllSucceed h' → c.inSource = false ∧ c.inTarget = false))
      (copySecret req ref.secret) h s := by
  rcases hc with ⟨inSource, inTarget, hsource, htarget, rfl⟩
  -- A secret that the target has, or that neither namespace has, is no action of the plan.
  have hidle {c : CredentialPlan} {h' : History Server} (hcopy : c.willCopy = false)
      (ht' : Tally stamp done h') :
      Tally stamp (done ++ copyActions req [c]) h' ∧ Kept ref.secret s s := by
    rw [copyActions_of_not_willCopy hcopy, List.append_nil]
    exact ⟨ht', kept_refl _ s⟩
  unfold copySecret
  rw [ensuresIn_bind]
  refine ensuresIn_look rfl htarget ht ?_ ?_
  · intro h₁ ht₁
    cases inTarget with
    | some existing =>
        exact hidle (Bool.and_false _) ht₁
    | none =>
        show EnsuresIn _ _ _ _ (Operation.getSecret _ _ >>= fun _ => _) h₁ s
        rw [ensuresIn_bind]
        refine ensuresIn_look rfl hsource ht₁ ?_ ?_
        · intro h₂ ht₂
          cases inSource with
          | none =>
              exact ⟨hidle rfl ht₂, fun _ => ⟨rfl, rfl⟩⟩
          | some secret =>
              exact (ensuresIn_createCopy (c := ⟨ref.secret, ref.essential, ref.purpose, true,
                false⟩) hsource htarget ht₂).mono (fun _ _ _ hr => hr)
                (fun _ _ _ hf => ⟨hf.1, fun hall => absurd hall hf.2⟩)
        · intro h₂ e ht₂ hfailed
          exact ⟨⟨ht₂.extend hfailed _, kept_refl _ s⟩, fun hall => absurd hall hfailed⟩
  · intro h₁ e ht₁ hfailed
    exact ⟨⟨ht₁.extend hfailed _, kept_refl _ s⟩, fun hall => absurd hall hfailed⟩

theorem ensuresIn_copyCredential {ref : CredentialRef} {c : CredentialPlan} (report : Report)
    (hc : Holds s req ref c) (hprovided : c.isBlocking = false) (ht : Tally stamp done h) :
    EnsuresIn (Store.alone stamp) (Granted fresh)
      (fun h' s' _ => Tally stamp (done ++ copyActions req [c]) h' ∧ Kept ref.secret s s')
      (fun h' _ _ => Tally stamp (done ++ copyActions req [c]) h' ∧ ¬ AllSucceed h')
      (copyCredential req report ref) h s := by
  have hessential : c.essential = ref.essential := by
    rcases hc with ⟨_, _, _, _, rfl⟩
    rfl
  show Procedure.EnsuresIn _ _ _ (Procedure.bind _ _) h s
  rw [Procedure.ensuresIn_bind]
  refine Procedure.EnsuresIn.mono ?_ (ensuresIn_copySecret hc ht)
  rintro h' s' (e | ⟨_ | _⟩) hends
  -- With no failed request an error says that the secret is nowhere; then it is not essential.
  · rcases hends with ⟨hcopied, hmissing⟩
    cases hr : ref.essential with
    | false =>
        simp only [Bool.false_eq_true, if_false]
        exact hcopied
    | true =>
        simp only [if_true]
        refine ⟨hcopied.1, ?_⟩
        intro hall
        rcases hmissing hall with ⟨hsource, htarget⟩
        simp [CredentialPlan.isBlocking, hessential, hr, hsource, htarget] at hprovided
  · exact hends
  · exact hends

theorem ensuresIn_copyCredentials {refs : List CredentialRef} {credentials : List CredentialPlan}
    (report : Report) (hrefs : (refs.map (·.secret)).Nodup)
    (hholds : List.Forall₂ (Holds s req) refs credentials)
    (hprovided : ∀ c ∈ credentials, c.isBlocking = false) (ht : Tally stamp done h) :
    EnsuresIn (Store.alone stamp) (Granted fresh)
      (fun h' s' _ => Tally stamp (done ++ copyActions req credentials) h' ∧
        s'.clusters = s.clusters ∧ s'.restores = s.restores)
      (fun h' _ _ => Tally stamp (done ++ copyActions req credentials) h' ∧ ¬ AllSucceed h')
      (refs.foldlM (copyCredential req) report) h s := by
  -- Each reference adds secrets of its own name at most, so the others are still held as planned.
  induction refs generalizing credentials done h s report with
  | nil =>
      cases hholds
      have hnothing : copyActions req [] = [] := rfl
      show Tally stamp (done ++ copyActions req []) h ∧ s.clusters = s.clusters ∧
        s.restores = s.restores
      rw [hnothing, List.append_nil]
      exact ⟨ht, rfl, rfl⟩
  | cons ref refs ih =>
      obtain _ | @⟨_, c, _, rest, hc, hrest⟩ := hholds
      rw [List.map_cons, List.nodup_cons] at hrefs
      rw [List.foldlM_cons, ensuresIn_bind, copyActions_cons, ← List.append_assoc]
      refine (ensuresIn_copyCredential report hc (hprovided c List.mem_cons_self) ht).mono ?_ ?_
      · rintro h' s' report' ⟨ht', hkept⟩
        refine (ih report' hrefs.2 (hkept.forall₂_holds hrefs.1 hrest)
          (fun c hc => hprovided c (List.mem_cons_of_mem _ hc)) ht').mono ?_ (fun _ _ _ hf => hf)
        rintro h'' s'' report'' ⟨ht'', hclusters, hrestores⟩
        exact ⟨ht'', hclusters.trans hkept.clusters, hrestores.trans hkept.restores⟩
      · rintro h' s' e ⟨ht', hfailed⟩
        exact ⟨ht'.extend hfailed _, hfailed⟩

/-!
## The clone
-/

/-- The source can be read, the name is free, and the credentials are as they are planned. -/
structure IsReady (s : Store) (req : Request) (credentials : List CredentialPlan) : Prop where
  source : ∃ cluster : Cluster,
    (s.perform (.getCluster req.sourceScope req.sourceCluster)).1 = Except.ok (some cluster) ∧
      List.Forall₂ (Holds s req) (credentialRefs cluster req.restoreStorage) credentials
  isFree : (s.perform (.getCluster req.targetScope req.targetCluster)).1 = Except.ok none
  isProvided : ∀ c ∈ credentials, c.isBlocking = false

def clusterAction (req : Request) : PlannedAction :=
  ⟨Resource.Kind.cluster, req.targetCluster, req.targetScope,
    "clone of " ++ req.sourceScope ++ "/" ++ req.sourceCluster⟩

theorem ensuresIn_createClone {cluster : Cluster} {x : Store}
    (hfree : (x.perform (.getCluster req.targetScope req.targetCluster)).1 = Except.ok none)
    (hs : s.clusters = x.clusters) (ht : Tally stamp done h) :
    EnsuresIn (Store.alone stamp) (Granted fresh)
      (fun h' s' _ => Tally stamp (done ++ [clusterAction req]) h' ∧ s'.restores = s.restores)
      (fun h' _ _ => Tally stamp (done ++ [clusterAction req]) h' ∧ ¬ AllSucceed h')
      (Operation.createCluster (cluster.cloneFor req.targetScope req.targetCluster)) h s := by
  have hgranted := Store.perform_createCluster (s := s)
    (c := cluster.cloneFor req.targetScope req.targetCluster)
    (by rw [Store.placeOf_cloneFor, hs]; exact Store.readOne_eq_none hfree)
  obtain ⟨w, hw, hdescribes⟩ : ∃ w,
      Write.of? (.createCluster (cluster.cloneFor req.targetScope req.targetCluster)) = some w ∧
        Describes stamp (clusterAction req) w :=
    ⟨_, rfl, describes_of_name rfl rfl rfl
      (show Resource.Kind.cluster ≠ Resource.Kind.restore by decide)⟩
  refine ensuresIn_creation hgranted hw hdescribes ht ?_ ?_
  · exact fun h' ht' => ⟨ht', rfl⟩
  · exact fun h' e ht' hfailed => ⟨ht', hfailed⟩

theorem ensuresIn_run {credentials : List CredentialPlan} (hs : IsReady s req credentials)
    (ht : Tally stamp done h) :
    EnsuresIn (Store.alone stamp) (Granted fresh)
      (fun h' s' _ => Tally stamp (done ++ copyActions req credentials ++ [clusterAction req]) h' ∧
        s'.restores = s.restores)
      (fun h' _ _ => Tally stamp (done ++ copyActions req credentials ++ [clusterAction req]) h' ∧
        ¬ AllSucceed h')
      (run req) h s := by
  rcases hs with ⟨⟨cluster, hcluster, hholds⟩, hfree, hprovided⟩
  have hbroken {h' : History Server} (ht' : Tally stamp done h') (hfailed : ¬ AllSucceed h') :
      Tally stamp (done ++ copyActions req credentials ++ [clusterAction req]) h' ∧
        ¬ AllSucceed h' :=
    ⟨(ht'.extend hfailed _).extend hfailed _, hfailed⟩
  unfold run source
  rw [ensuresIn_bind, ensuresIn_bind]
  refine ensuresIn_look rfl hcluster ht ?_ (fun h' e ht' hfailed => hbroken ht' hfailed)
  intro h₁ ht₁
  show EnsuresIn _ _ _ _ (Operation.getCluster _ _ >>= fun _ => _) h₁ s
  rw [ensuresIn_bind]
  refine ensuresIn_look rfl hfree ht₁ ?_ (fun h' e ht' hfailed => hbroken ht' hfailed)
  intro h₂ ht₂
  show EnsuresIn _ _ _ _ (List.foldlM _ _ _ >>= fun _ => _) h₂ s
  rw [ensuresIn_bind]
  refine (ensuresIn_copyCredentials _ (nodup_credentialRefs _ _) hholds hprovided ht₂).mono ?_ ?_
  · rintro h₃ s₃ report ⟨ht₃, hclusters, hrestores⟩
    rw [ensuresIn_bind]
    refine (ensuresIn_createClone hfree hclusters ht₃).mono ?_ (fun _ _ _ hf => hf)
    rintro h₄ s₄ _ ⟨ht₄, hrestores₄⟩
    exact ⟨ht₄, hrestores₄.trans hrestores⟩
  · rintro h₃ s₃ e ⟨ht₃, hfailed⟩
    exact ⟨ht₃.extend hfailed _, hfailed⟩

end

end Clone
end PointInTime
