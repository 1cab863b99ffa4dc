import PointInTime.Proofs.Server.Secrets
import PointInTime.Proofs.Workflow.Survey

/-!
# Credentials before the cluster

The operator makes fresh root credentials for a cluster that finds none, so that a cluster that is
created too early has data that nobody can reach.  A clone therefore asks for the cluster only after
every essential credential was said to be in the target, and until then it creates nothing but
copies of secrets.

Main statement: on a server that calls a secret taken only if it is, the essential credentials are
there whenever the cluster is asked for.  A server that refuses a secret as a conflict for some
other reason gets a cluster without them.
-/

namespace PointInTime

open Operation

namespace Clone

variable {h : History Server} {req : Request} {cluster : Cluster} {restoreStorage : Option String}

/-!
## Essential credentials
-/

/-- A restore cannot do without the root credentials, and without the secrets of the storage profile
that it reads from. -/
def IsEssential (cluster : Cluster) (restoreStorage : Option String) (secret : String) : Prop :=
  secret = cluster.secretsName ∨
    ∃ cred ∈ cluster.storageCredentials,
      restoreStorage = some cred.storageName ∧ cred.secretName = secret

/-- A secret is listed as essential. -/
def Requires (refs : List CredentialRef) (secret : String) : Prop :=
  ∃ ref ∈ refs, ref.secret = secret ∧ ref.essential = true

theorem requires_addCredential {refs : List CredentialRef} {secret : String}
    (hrefs : Requires refs secret) (cred : StorageCredential) :
    Requires (addCredential restoreStorage refs cred) secret := by
  rcases hrefs with ⟨ref, hmem, rfl, hessential⟩
  unfold addCredential
  split
  · refine ⟨_, List.mem_map_of_mem hmem, ?_⟩
    split
    · exact ⟨rfl, by simp [hessential]⟩
    · exact ⟨rfl, hessential⟩
  · exact ⟨ref, List.mem_append_left _ hmem, rfl, hessential⟩

/-- A secret becomes essential by one of its uses, whether it was listed before or not. -/
theorem requires_addCredential_self (refs : List CredentialRef) {cred : StorageCredential}
    (hcred : restoreStorage = some cred.storageName) :
    Requires (addCredential restoreStorage refs cred) cred.secretName := by
  unfold addCredential
  split
  · rename_i hlisted
    rw [List.any_eq_true] at hlisted
    obtain ⟨ref, hmem, hsecret⟩ := hlisted
    have hsecret : ref.secret = cred.secretName := eq_of_beq hsecret
    exact ⟨_, List.mem_map_of_mem hmem, by simp [hsecret, hcred]⟩
  · exact ⟨_, List.mem_append_right _ (List.mem_singleton_self _), rfl, by simp [hcred]⟩

theorem requires_credentialRefs {secret : String}
    (hsecret : IsEssential cluster restoreStorage secret) :
    Requires (credentialRefs cluster restoreStorage) secret := by
  have hkeeps (creds : List StorageCredential) (refs : List CredentialRef)
      (hrefs : Requires refs secret) :
      Requires (creds.foldl (addCredential restoreStorage) refs) secret := by
    induction creds generalizing refs with
    | nil => exact hrefs
    | cons cred rest ih => exact ih _ (requires_addCredential hrefs cred)
  rcases hsecret with rfl | ⟨cred, hcred, hstorage, rfl⟩
  · exact hkeeps _ _ ⟨rootRef cluster, List.mem_singleton_self _, rfl, rfl⟩
  · obtain ⟨before, after, hsplit⟩ := List.append_of_mem hcred
    unfold credentialRefs
    rw [hsplit, List.foldl_append, List.foldl_cons]
    exact hkeeps _ _ (requires_addCredential_self _ hstorage)

theorem requires_of_addCredential {refs : List CredentialRef} {cred : StorageCredential}
    {secret : String} (h : Requires (addCredential restoreStorage refs cred) secret) :
    Requires refs secret ∨ restoreStorage = some cred.storageName ∧ cred.secretName = secret := by
  obtain ⟨ref, hmem, rfl, hessential⟩ := h
  unfold addCredential at hmem
  split at hmem
  · obtain ⟨old, hold, rfl⟩ := List.mem_map.mp hmem
    split at hessential
    · rename_i hsame
      rw [if_pos hsame]
      rw [Bool.or_eq_true, beq_iff_eq] at hessential
      rcases hessential with hbefore | hnow
      · exact Or.inl ⟨old, hold, rfl, hbefore⟩
      · exact Or.inr ⟨hnow, hsame.symm⟩
    · rename_i hother
      rw [if_neg hother]
      exact Or.inl ⟨old, hold, rfl, hessential⟩
  · rcases List.mem_append.mp hmem with hold | hnew
    · exact Or.inl ⟨ref, hold, rfl, hessential⟩
    · cases List.mem_singleton.mp hnew
      exact Or.inr ⟨eq_of_beq hessential, rfl⟩

theorem requires_credentialRefs_iff {secret : String} :
    Requires (credentialRefs cluster restoreStorage) secret ↔
      IsEssential cluster restoreStorage secret := by
  constructor
  · have hfold (creds : List StorageCredential) (refs : List CredentialRef)
        (hcreds : ∀ cred ∈ creds, cred ∈ cluster.storageCredentials)
        (hrefs : Requires refs secret → IsEssential cluster restoreStorage secret)
        (hsecret : Requires (creds.foldl (addCredential restoreStorage) refs) secret) :
        IsEssential cluster restoreStorage secret := by
      induction creds generalizing refs with
      | nil => exact hrefs hsecret
      | cons cred rest ih =>
          refine ih _ (fun c hc => hcreds c (List.mem_cons_of_mem _ hc)) ?_ hsecret
          intro hadded
          rcases requires_of_addCredential hadded with hbefore | ⟨hstorage, hname⟩
          · exact hrefs hbefore
          · exact Or.inr ⟨cred, hcreds cred List.mem_cons_self, hstorage, hname⟩
    apply hfold _ _ fun _ h => h
    rintro ⟨ref, hmem, rfl, -⟩
    cases List.mem_singleton.mp hmem
    exact Or.inl rfl
  · exact requires_credentialRefs

/-!
## What a clone asks for
-/

/-- A secret was said to be in the target: it was read there, or it was copied, or somebody else was
said to have created it. -/
def Provided (req : Request) (h : History Server) (name : String) : Prop :=
  (∃ secret, Heard h (.getSecret req.targetScope name) (some secret)) ∨
    ∃ secret, Heard h (.getSecret req.sourceScope name) (some secret) ∧
      Store.Settled h (secret.copyTo req.sourceScope req.targetScope)

/-- What copying asks for: looks, and copies of what was read. -/
def Copies (req : Request) (h : History Server) : Demand → Prop
  | .server (.createSecret scope copy) =>
      scope = req.targetScope ∧
        ∃ name secret, Heard h (.getSecret req.sourceScope name) (some secret) ∧
          copy = secret.copyTo req.sourceScope req.targetScope
  | d => d.IsLook

def Asks (req : Request) (h : History Server) : Demand → Prop
  | .server (.createCluster c) =>
      ∃ cluster, Heard h (.getCluster req.sourceScope req.sourceCluster) (some cluster) ∧
        c = cluster.cloneFor req.targetScope req.targetCluster ∧
        ∀ name, IsEssential cluster req.restoreStorage name → Provided req h name
  | d => Copies req h d

theorem Copies.asks {d : Demand} (hd : Copies req h d) : Asks req h d := by
  cases d with
  | stamp => exact hd
  | server r =>
      cases r with
      | createCluster c => cases hd
      | _ => exact hd

/-- A definition was read and its clone created. -/
def Cloned (req : Request) (h : History Server) : Prop :=
  ∃ cluster, Heard h (.getCluster req.sourceScope req.sourceCluster) (some cluster) ∧
    Heard h (.createCluster (cluster.cloneFor req.targetScope req.targetCluster)) ()

theorem Provided.append {name : String} (hp : Provided req h name) (more : History Server) :
    Provided req (h ++ more) name := by
  rcases hp with ⟨secret, hread⟩ | ⟨secret, hread, hsettled⟩
  · exact Or.inl ⟨secret, hread.append more⟩
  · exact Or.inr ⟨secret, hread.append more, hsettled.append more⟩

theorem ensures_createCopy {name : String} {secret : Secret}
    (hread : Heard h (.getSecret req.sourceScope name) (some secret)) :
    Ensures (Copies req)
      (fun h _ => Store.Settled h (secret.copyTo req.sourceScope req.targetScope))
      (fun _ _ => True) (createCopy req secret) h := by
  refine ⟨⟨rfl, name, secret, hread, rfl⟩, fun outcome => ?_⟩
  rcases outcome with e | _
  · cases e with
    | conflict message =>
        refine ⟨req.targetScope, Or.inr ⟨message, ?_⟩⟩
        exact List.mem_append_right _ (List.mem_singleton_self _)
    | _ => trivial
  · exact ⟨req.targetScope, Or.inl (heard_append_singleton _ _ _)⟩

theorem ensures_copySecret (req : Request) (name : String) (h : History Server) :
    Ensures (Copies req) (fun h _ => Provided req h name) (fun _ _ => True)
      (copySecret req name) h := by
  unfold copySecret
  rw [Operation.ensures_bind]
  apply ensures_send.mpr
  refine ⟨rfl, fun inTarget : Option Secret => ?_, fun _ => trivial⟩
  cases inTarget with
  | some existing => exact Or.inl ⟨existing, heard_append_singleton _ _ _⟩
  | none =>
      show Ensures _ _ _ (Operation.getSecret _ _ >>= fun _ => _) _
      rw [Operation.ensures_bind]
      apply ensures_send.mpr
      refine ⟨rfl, fun inSource : Option Secret => ?_, fun _ => trivial⟩
      rw [Operation.ensures_bind, ensures_orMissing]
      cases inSource with
      | none => trivial
      | some secret =>
          have hread := heard_append_singleton
            (h ++ [⟨.server (.getSecret req.targetScope name), Except.ok none⟩])
            (.getSecret req.sourceScope name) (some secret)
          refine (ensures_createCopy hread).mono (fun _ _ hd => hd) ?_ (fun _ _ hf => hf)
          intro more _ hsettled
          exact Or.inr ⟨secret, hread.append more, hsettled⟩

theorem ensures_copyCredential (req : Request) (report : Report) (ref : CredentialRef)
    (h : History Server) :
    Ensures (Copies req) (fun h _ => ref.essential = true → Provided req h ref.secret)
      (fun _ _ => True) (copyCredential req report ref) h := by
  show Procedure.Ensures _ _ (Procedure.bind _ _) h
  rw [Procedure.ensures_bind]
  refine Procedure.Ensures.mono (fun _ _ hr => hr) ?_ (ensures_copySecret req ref.secret h)
  rintro more (e | ⟨_ | _⟩) hprovided
  · -- Only a credential that is not essential may be missing.
    cases ref.essential with
    | true => trivial
    | false => exact fun hessential => nomatch hessential
  · exact fun _ => hprovided
  · exact fun _ => hprovided

theorem ensures_copyCredentials (req : Request) (refs : List CredentialRef) (report : Report)
    (h : History Server) :
    Ensures (Copies req)
      (fun h _ => ∀ ref ∈ refs, ref.essential = true → Provided req h ref.secret)
      (fun _ _ => True) (refs.foldlM (copyCredential req) report) h := by
  induction refs generalizing report h with
  | nil => exact fun ref hmem => nomatch hmem
  | cons ref rest ih =>
      rw [List.foldlM_cons, Operation.ensures_bind]
      refine (ensures_copyCredential req report ref h).mono (fun _ _ hd => hd) ?_
        (fun _ _ hf => hf)
      intro more report' hfirst
      refine (ih report' (h ++ more)).mono (fun _ _ hd => hd) ?_ (fun _ _ hf => hf)
      intro later _ hrest ref' hmem hessential
      rcases List.mem_cons.mp hmem with rfl | hmem
      · exact (hfirst hessential).append later
      · exact hrest ref' hmem hessential

theorem ensures_run (req : Request) (h : History Server) :
    Ensures (Asks req) (fun h _ => Cloned req h) (fun _ _ => True) (run req) h := by
  unfold run source
  rw [Operation.ensures_bind, Operation.ensures_bind]
  apply ensures_send.mpr
  refine ⟨rfl, fun found : Option Cluster => ?_, fun _ => trivial⟩
  rw [ensures_orMissing]
  cases found with
  | none => trivial
  | some cluster =>
      have hsource := heard_append_singleton h
        (.getCluster req.sourceScope req.sourceCluster) (some cluster)
      show Ensures _ _ _ (Operation.getCluster _ _ >>= fun _ => _) _
      rw [Operation.ensures_bind]
      apply ensures_send.mpr
      refine ⟨rfl, fun existing : Option Cluster => ?_, fun _ => trivial⟩
      cases existing with
      | some taken => trivial
      | none =>
          show Ensures _ _ _ (List.foldlM _ _ _ >>= fun _ => _) _
          rw [Operation.ensures_bind]
          refine (ensures_copyCredentials req _ _ _).mono (fun _ _ hd => hd.asks) ?_
            (fun _ _ hf => hf)
          intro more report hprovided
          rw [Operation.ensures_bind]
          apply ensures_send.mpr
          refine ⟨⟨cluster, (hsource.append _).append more, rfl, ?_⟩, fun _ => ?_, fun _ => trivial⟩
          · intro name hname
            obtain ⟨ref, hmem, rfl, hessential⟩ := requires_credentialRefs hname
            exact hprovided ref hmem hessential
          · exact ⟨cluster, ((hsource.append _).append more).append _, heard_append_singleton _ _ _⟩

/-!
## At every moment of a clone
-/

/-- A secret is to be created in the target namespace. -/
def IsCopy (req : Request) : Demand → Prop
  | .server (.createSecret scope copy) =>
      scope = req.targetScope ∧ (Store.placeOf copy.toJson).1 = req.targetScope
  | _ => False

def IsClusterCreation : Demand → Prop
  | .server (.createCluster _) => True
  | _ => False

theorem Asks.isCopy {d : Demand} (hd : Asks req h d) (hwrite : d.IsWrite) :
    IsCopy req d ∨ IsClusterCreation d := by
  cases d with
  | stamp => exact hwrite.elim
  | server r =>
      cases r with
      | createSecret scope copy =>
          obtain ⟨hscope, _, secret, _, rfl⟩ := hd
          exact Or.inl ⟨hscope, by rw [Store.placeOf_copyTo]⟩
      | createCluster c => exact Or.inr trivial
      | _ => exact absurd hwrite (Demand.IsLook.not_isWrite hd)

theorem Provided.hasSecret {s : Store} {name : String} (hs : s.Confirms h)
    (hp : Provided req h name) : s.HasSecret req.targetScope name := by
  rcases hp with ⟨secret, hread⟩ | ⟨secret, hread, hsettled⟩
  · exact hs.read _ _ secret hread
  · have hplace := hs.settled _ hsettled
    rw [Store.placeOf_copyTo, hs.named _ _ secret hread] at hplace
    exact hplace

/-- What is kept at every moment: what was said of the secrets is so, and nothing was to be created
but copies of them and the cluster. -/
def Careful (req : Request) (h : History Server) (s : Store) : Prop :=
  s.Confirms h ∧ ∀ e ∈ h, e.1.IsWrite → IsCopy req e.1 ∨ IsClusterCreation e.1

theorem careful_nil (req : Request) (s : Store) : Careful req [] s :=
  ⟨s.confirms_nil, fun _ he => nomatch he⟩

theorem Careful.answer {others : Store → Store → Prop} {s s' : Store} {d : Demand} {x : d.Answer}
    (hs : Careful req h s) (hd : Asks req h d) (ha : (Store.candid others).answers s d x s') :
    Careful req (h ++ [⟨d, x⟩]) s' := by
  refine ⟨hs.1.answer ha, ?_⟩
  intro e he hwrite
  rcases List.mem_append.mp he with hbefore | hnow
  · exact hs.2 e hbefore hwrite
  · cases List.mem_singleton.mp hnow
    exact hd.isCopy hwrite

theorem credentials_before_cluster {others : Store → Store → Prop}
    (hothers : ∀ s s', others s s' → s.KeepsSecrets s') (req : Request) {x now : Store}
    {log : History Server} {rest : Procedure Server (Except Error Report)}
    (pass : Procedure.Passes (Store.candid others) x (run req).run log now rest) :
    (∀ c next, rest = .ask (.server (.createCluster c)) next →
      ∃ source, Heard log (.getCluster req.sourceScope req.sourceCluster) (some source) ∧
        c = source.cloneFor req.targetScope req.targetCluster ∧
        ∀ name, IsEssential source req.restoreStorage name →
          now.HasSecret req.targetScope name) ∧
      ((∀ e ∈ log, ¬ IsClusterCreation e.1) → ∀ e ∈ log, e.1.IsWrite → IsCopy req e.1) := by
  have hdrift (h : History Server) (s s' : Store) (hd : others s s') (hs : Careful req h s) :
      Careful req h s' := ⟨hs.1.mono (hothers s s' hd), hs.2⟩
  obtain ⟨⟨hconfirms, hwrites⟩, hrest⟩ := pass.keeps hdrift
    (fun _ _ _ _ _ hd ha hs => hs.answer hd ha) (ensures_run req []) (careful_nil req x)
  constructor
  · rintro c next rfl
    obtain ⟨source, hsource, hc, hprovided⟩ := hrest.1
    exact ⟨source, hsource, hc, fun name hname => (hprovided name hname).hasSecret hconfirms⟩
  · intro hnone e he hwrite
    exact (hwrites e he hwrite).resolve_right (hnone e he)

/-!
## A clone of the example
-/

open Workflow (exampleStore exampleStamp)

def exampleRequest : Request :=
  ⟨"prod", "c1", "staging", "c2", some "s3"⟩

theorem credentials_before_cluster_in_staging :
    ∃ log now c next source, Procedure.Passes (Store.candid fun _ _ => False) exampleStore
        (run exampleRequest).run log now (.ask (.server (.createCluster c)) next) ∧
      Heard log (.getCluster "prod" "c1") (some source) ∧
      now.HasSecret "staging" source.secretsName := by
  obtain ⟨c, next, hrest⟩ : ∃ c next, (Procedure.advance (Store.serving id exampleStamp) 10
      (run exampleRequest).run exampleStore).1 = .ask (.server (.createCluster c)) next :=
    ⟨_, _, rfl⟩
  have pass := Procedure.passes_advance (Store.candid_serving (fun _ _ => False) exampleStamp) 10
    (run exampleRequest).run exampleStore
  rw [hrest] at pass
  obtain ⟨hcluster, -⟩ := credentials_before_cluster (fun _ _ hd => hd.elim) exampleRequest pass
  obtain ⟨source, hsource, -, hessential⟩ := hcluster c next rfl
  exact ⟨_, _, c, next, source, pass, hsource, hessential _ (Or.inl rfl)⟩

/-- A server that refuses every secret as a conflict, although there is none in the way. -/
def refusingSecrets (stamp : Stamp) : (d : Demand) → Store → d.Answer × Store
  | .server (.createSecret scope secret), s =>
      ((Request.createSecret scope secret).refused Request.conflictCode "Conflict"
        "the quota has been modified", s)
  | d, s => Store.serving id stamp d s

theorem unreliable_refusingSecrets (others : Store → Store → Prop) (stamp : Stamp) (d : Demand)
    (s : Store) :
    (Store.unreliable others).answers s d (refusingSecrets stamp d s).1
      (refusingSecrets stamp d s).2 := by
  cases d with
  | stamp => exact Store.unreliable_serving others stamp .stamp s
  | server r =>
      cases r with
      | createSecret scope secret =>
          exact Store.UnreliableAnswers.refused _ Request.conflictCode "Conflict"
            "the quota has been modified"
      | _ => exact Store.unreliable_serving others stamp _ s

/-- A refusal that has another reason is taken for a secret that is there. -/
theorem cluster_before_credentials :
    ¬ ∀ (req : Request) (x now : Store) (log : History Server) (c : Cluster)
        (next : Except Error Unit → Procedure Server (Except Error Report)),
      Procedure.Passes (Store.unreliable fun _ _ => False) x (run req).run log now
        (.ask (.server (.createCluster c)) next) →
      ∃ source, Heard log (.getCluster req.sourceScope req.sourceCluster) (some source) ∧
        now.HasSecret req.targetScope source.secretsName := by
  intro hall
  obtain ⟨c, next, hrest⟩ : ∃ c next, (Procedure.advance (refusingSecrets exampleStamp) 10
      (run exampleRequest).run exampleStore).1 = .ask (.server (.createCluster c)) next :=
    ⟨_, _, rfl⟩
  have pass := Procedure.passes_advance
    (unreliable_refusingSecrets (fun _ _ => False) exampleStamp) 10
    (run exampleRequest).run exampleStore
  rw [hrest] at pass
  obtain ⟨source, -, j, hj⟩ := hall exampleRequest _ _ _ c next pass
  have hnone : ∀ j ∈ (Procedure.advance (refusingSecrets exampleStamp) 10
      (run exampleRequest).run exampleStore).2.2.secrets, (Store.placeOf j).1 ≠ "staging" := by
    decide
  exact hnone j (List.mem_of_find?_eq_some hj) (congrArg Prod.fst (Store.placeOf_of_find? hj))

end Clone
end PointInTime
