import Mathlib.Data.List.Forall2
import PointInTime.Proofs.Catalog.Reading
import PointInTime.Proofs.Server.Writes
import PointInTime.Proofs.Workflow.Pick
import PointInTime.Workflow.Restore

/-!
# What a plan was made from

A plan is made by looking only.  Main statements: whatever planning is answered, it never asks for
anything but a look, and the plan it returns is for a listed backup of its source that may be
restored from, and says of the namespace, of the clusters and of the secrets exactly what was
answered about them.  For a source and a backup no plan is made only if one of the two cannot be
used, if the name of the new cluster is none, or if a look fails.
-/

namespace PointInTime

/-!
## The parts of planning
-/

open Operation

namespace Catalog

/-- A record is that of a backup that was listed, under the clusters that were listed, if any. -/
def Listed (scope : String) (h : History Server) (r : BackupRecord) : Prop :=
  ∃ (backups : List Backup) (clusters : List Cluster) (b : Backup),
    Heard h (.listBackups scope) backups ∧
      (clusters = [] ∨ Heard h (.listClusters scope) clusters) ∧
      b ∈ backups ∧ r = .ofBackup b (archivesLogs clusters b.spec.cluster)

/-- A record is that of a listed backup, under what came of listing the clusters. -/
def Read (scope : String) (h : History Server) (r : BackupRecord) : Prop :=
  ∃ (backups : List Backup) (outcome : Except Error (List Cluster)) (b : Backup),
    Heard h (.listBackups scope) backups ∧ ⟨.server (.listClusters scope), outcome⟩ ∈ h ∧
      b ∈ backups ∧ r = .ofBackup b (archivesLogs (outcome.toOption.getD []) b.spec.cluster)

theorem Read.append {scope : String} {h : History Server} {r : BackupRecord}
    (hr : Read scope h r) (more : History Server) : Read scope (h ++ more) r := by
  rcases hr with ⟨backups, outcome, b, hbackups, houtcome, hb, rfl⟩
  exact ⟨backups, outcome, b, hbackups.append more, List.mem_append_left more houtcome, hb, rfl⟩

theorem Read.listed {scope : String} {h : History Server} {r : BackupRecord}
    (hr : Read scope h r) : Listed scope h r := by
  rcases hr with ⟨backups, outcome, b, hbackups, houtcome, hb, rfl⟩
  refine ⟨backups, outcome.toOption.getD [], b, hbackups, ?_, hb, rfl⟩
  cases outcome with
  | error e => exact Or.inl rfl
  | ok clusters => exact Or.inr houtcome

theorem ensures_listAll_read (scope : String) (h : History Server) :
    Procedure.Ensures Looking (fun h records => ∀ r ∈ records, Read scope h r)
      (listAll scope) h := by
  refine ensures_listAll rfl (fun _ => rfl) (fun _ _ r hr => nomatch hr) ?_
  intro backups outcome r hr
  obtain ⟨b, hb, rfl⟩ := mem_records.mp hr
  exact ⟨backups, outcome, b, (heard_append_singleton h _ _).append _,
    List.mem_append_right _ (List.mem_singleton_self _), hb, rfl⟩

theorem ensures_list (scope : String) (h : History Server) :
    Procedure.Ensures Looking
      (fun h records => ∀ r ∈ records, Read scope h r ∧ r.isEligible = true) (list scope) h := by
  unfold list
  rw [Procedure.bind_eq_bind, Procedure.ensures_bind]
  refine (ensures_listAll_read scope h).mono (fun _ _ hr => hr) ?_
  intro more records hread r hr
  rcases List.mem_filter.mp hr with ⟨hmem, heligible⟩
  exact ⟨hread r hmem, heligible⟩

theorem ensures_get (scope name : String) (h : History Server) :
    Ensures Looking (fun h r => Read scope h r ∧ r.isEligible = true) (fun _ _ => True)
      (get scope name) h := by
  unfold get
  rw [Operation.ensures_bind, ensures_lift]
  refine (ensures_listAll_read scope h).mono (fun _ _ hr => hr) ?_
  intro more records hread
  rw [Operation.ensures_bind, ensures_orMissing]
  cases hfound : records.find? (·.name == name) with
  | none => trivial
  | some r =>
      show Ensures _ _ _ (if r.isEligible then pure r else _) _
      split
      · rename_i heligible
        exact ⟨hread r (List.mem_of_find?_eq_some hfound), heligible⟩
      · trivial

end Catalog

namespace Clone

variable {req : Request} {h : History Server}

/-- A credential is planned as it was found in both namespaces. -/
def Seen (req : Request) (h : History Server) (ref : CredentialRef) (c : CredentialPlan) : Prop :=
  ∃ inSource inTarget : Option Secret,
    Heard h (.getSecret req.sourceScope ref.secret) inSource ∧
      Heard h (.getSecret req.targetScope ref.secret) inTarget ∧
      c = ⟨ref.secret, ref.essential, ref.purpose, inSource.isSome, inTarget.isSome⟩

/-- A preview is made of what was found. -/
def Previewed (req : Request) (h : History Server) (preview : Preview) : Prop :=
  ∃ (cluster : Cluster) (existing : Option Cluster) (credentials : List CredentialPlan),
    Heard h (.getCluster req.sourceScope req.sourceCluster) (some cluster) ∧
      Heard h (.getCluster req.targetScope req.targetCluster) existing ∧
      List.Forall₂ (Seen req h) (credentialRefs cluster req.restoreStorage) credentials ∧
      preview = ⟨req.sourceScope, req.sourceCluster, req.targetScope, req.targetCluster,
        existing.isSome, credentials⟩

theorem Seen.append {ref : CredentialRef} {c : CredentialPlan} (hc : Seen req h ref c)
    (more : History Server) : Seen req (h ++ more) ref c := by
  rcases hc with ⟨inSource, inTarget, hsource, htarget, rfl⟩
  exact ⟨inSource, inTarget, hsource.append more, htarget.append more, rfl⟩

theorem ensures_planCredential (req : Request) (ref : CredentialRef) (h : History Server) :
    Ensures Looking (fun h c => Seen req h ref c) (fun h _ => ¬ AllSucceed h)
      (planCredential req ref) h := by
  unfold planCredential
  rw [Operation.ensures_bind]
  apply ensures_send.mpr
  refine ⟨rfl, fun inSource => ?_, not_allSucceed_of_error h _⟩
  rw [Operation.ensures_bind]
  apply ensures_send.mpr
  refine ⟨rfl, fun inTarget => ?_, not_allSucceed_of_error _ _⟩
  exact ⟨inSource, inTarget, (heard_append_singleton h _ _).append _,
    heard_append_singleton _ _ _, rfl⟩

theorem ensures_planCredentials (req : Request) (refs : List CredentialRef) (h : History Server) :
    Ensures Looking (fun h cs => List.Forall₂ (Seen req h) refs cs)
      (fun h _ => ¬ AllSucceed h) (refs.mapM (planCredential req)) h := by
  induction refs generalizing h with
  | nil => exact List.Forall₂.nil
  | cons ref rest ih =>
      rw [List.mapM_cons, Operation.ensures_bind]
      refine (ensures_planCredential req ref h).mono (fun _ _ hr => hr) ?_ (fun _ _ he => he)
      intro more c hc
      rw [Operation.ensures_bind]
      refine (ih (h ++ more)).mono (fun _ _ hr => hr) ?_ (fun _ _ he => he)
      intro later cs hcs
      exact List.Forall₂.cons (hc.append later) hcs

/-- Only a look that fails and a cluster that is not there keep a preview from being made. -/
theorem ensures_plan (req : Request) (h : History Server) :
    Ensures Looking (fun h preview => Previewed req h preview)
      (fun h _ => ¬ AllSucceed h ∨ Heard h (.getCluster req.sourceScope req.sourceCluster) none)
      (plan req) h := by
  unfold plan source
  rw [Operation.ensures_bind, Operation.ensures_bind]
  apply ensures_send.mpr
  refine ⟨rfl, fun found : Option Cluster => ?_, fun e => Or.inl (not_allSucceed_of_error h _ e)⟩
  rw [ensures_orMissing]
  cases found with
  | none => exact Or.inr (heard_append_singleton h _ _)
  | some cluster =>
      show Ensures _ _ _ (Operation.getCluster _ _ >>= fun _ => _) _
      rw [Operation.ensures_bind]
      apply ensures_send.mpr
      refine ⟨rfl, fun existing : Option Cluster => ?_,
        fun e => Or.inl (not_allSucceed_of_error _ _ e)⟩
      rw [Operation.ensures_bind]
      refine (ensures_planCredentials req _ _).mono (fun _ _ hr => hr) ?_ (fun _ _ he => Or.inl he)
      intro more credentials hall
      exact ⟨cluster, existing, credentials, ((heard_append_singleton h _ _).append _).append _,
        (heard_append_singleton _ _ _).append _, hall, rfl⟩

end Clone

namespace Workflow

/-- A record that may be restored from, of the source. -/
structure Offered (o : RestoreOptions) (h : History Server) (source : String)
    (r : BackupRecord) : Prop where
  listed : Catalog.Listed o.sourceScope h r
  eligible : r.isEligible = true
  ofSource : r.cluster = source

/-- A record that was chosen: it may be restored from, and it was read in the catalog. -/
structure Chosen (o : RestoreOptions) (h : History Server) (source : String)
    (r : BackupRecord) : Prop where
  read : Catalog.Read o.sourceScope h r
  eligible : r.isEligible = true
  ofSource : r.cluster = source

theorem Chosen.append {o : RestoreOptions} {h : History Server} {source : String}
    {r : BackupRecord} (hr : Chosen o h source r) (more : History Server) :
    Chosen o (h ++ more) source r :=
  ⟨hr.read.append more, hr.eligible, hr.ofSource⟩

theorem Chosen.offered {o : RestoreOptions} {h : History Server} {source : String}
    {r : BackupRecord} (hr : Chosen o h source r) : Offered o h source r :=
  ⟨hr.read.listed, hr.eligible, hr.ofSource⟩

theorem ensures_namedBackup (o : RestoreOptions) (h : History Server) :
    Ensures Looking
      (fun h named => ∀ r ∈ named, Catalog.Read o.sourceScope h r ∧ r.isEligible = true)
      (fun _ _ => True) (namedBackup o) h := by
  unfold namedBackup
  split
  · exact fun r hr => nomatch hr
  · rw [map_eq_pure_bind, Operation.ensures_bind]
    refine (Catalog.ensures_get _ _ h).mono (fun _ _ hr => hr) ?_ (fun _ _ _ => trivial)
    intro more r hread r' hr'
    cases hr'
    exact hread

theorem looks_resolveCluster (scope : String) (name : Option String) :
    Looks (resolveCluster scope name) := by
  intro h
  unfold resolveCluster
  split
  · rw [Operation.ensures_bind]
    apply ensures_send.mpr
    refine ⟨rfl, fun found : Option Cluster => ?_, fun _ => trivial⟩
    rw [ensures_orMissing]
    cases found <;> trivial
  · rw [Operation.ensures_bind]
    apply ensures_send.mpr
    refine ⟨rfl, fun clusters : List Cluster => ?_, fun _ => trivial⟩
    split <;> trivial

theorem ensures_chooseBackup (o : RestoreOptions) (source : String) (h : History Server) :
    Ensures Looking (fun h r => Chosen o h source r) (fun _ _ => True)
      (chooseBackup o.sourceScope source o.instant) h := by
  unfold chooseBackup
  rw [Operation.ensures_bind, ensures_lift]
  refine (Catalog.ensures_list o.sourceScope h).mono (fun _ _ hr => hr) ?_
  intro more records hrecords
  rw [ensures_orMissing]
  cases hpick : pick? o.instant (candidates source records) with
  | none => trivial
  | some r =>
      rcases List.mem_filter.mp (mem_of_pick? hpick) with ⟨hmem, hsource⟩
      obtain ⟨hread, heligible⟩ := hrecords r hmem
      rw [Bool.and_eq_true, beq_iff_eq] at hsource
      exact ⟨hread, heligible, hsource.1⟩

theorem ensures_selectBackup {o : RestoreOptions} {h : History Server}
    {named : Option BackupRecord} (source : String)
    (hnamed : ∀ r ∈ named, Catalog.Read o.sourceScope h r ∧ r.isEligible = true) :
    Ensures Looking (fun h r => Chosen o h source r) (fun _ _ => True)
      (selectBackup o source named) h := by
  unfold selectBackup
  cases named with
  | none => exact ensures_chooseBackup o source h
  | some r =>
      show Ensures _ _ _ (if r.cluster = source then pure r else _) _
      split
      · rename_i hsource
        obtain ⟨hread, heligible⟩ := hnamed r rfl
        exact ⟨hread, heligible, hsource⟩
      · trivial

/-!
## The rest of a plan
-/

theorem readSource_eq_ok {backup : BackupRecord} {storageName : String}
    (h : readSource backup = Except.ok storageName) :
    backup.storageName = some storageName ∧
      ∃ destination, backup.destination = some destination := by
  unfold readSource at h
  split at h
  · cases h
  · rename_i storage hstorage
    split at h
    · rename_i hdestination
      cases h
      exact ⟨hstorage, Option.isSome_iff_exists.mp hdestination⟩
    · cases h

/-- What is left of planning once the source and the backup are chosen. -/
def planFor (o : RestoreOptions) (source : String) (backup : BackupRecord) : Operation Plan := do
  let window ← Operation.of backup.window
  let instant := o.instant.getD window.latest
  let storageName ← Operation.of (readSource backup)
  let target := targetName o source instant
  Operation.of (Name.check target Name.clusterLimit)
  let namespaceExists ← Operation.namespaceExists o.target
  let clone ← Clone.plan ⟨o.sourceScope, source, o.target, target, some storageName⟩
  return assemble o source backup window instant storageName namespaceExists clone

theorem plan_eq (o : RestoreOptions) :
    plan o = (do
      let named ← namedBackup o
      let cluster ← resolveCluster o.sourceScope (o.sourceCluster.or (named.map (·.cluster)))
      let backup ← selectBackup o cluster.name named
      planFor o cluster.name backup) := rfl

/-- A plan is assembled for a source and a backup from what was found. -/
def Drafted (o : RestoreOptions) (h : History Server) (source : String) (backup : BackupRecord)
    (p : Plan) : Prop :=
  ∃ (window : RecoveryWindow) (storageName : String) (doesExist : Bool) (clone : Clone.Preview),
    backup.window = Except.ok window ∧ readSource backup = Except.ok storageName ∧
      Heard h (.namespaceExists o.target) doesExist ∧
      Clone.Previewed ⟨o.sourceScope, source, o.target,
        targetName o source (o.instant.getD window.latest), some storageName⟩ h clone ∧
      p = assemble o source backup window (o.instant.getD window.latest) storageName doesExist
        clone

/-- What keeps a plan from being made once the source and the backup are chosen. -/
inductive Hindered (o : RestoreOptions) (h : History Server) (source : String)
    (backup : BackupRecord) (e : Error) : Prop
  | window (hwindow : backup.window = Except.error e)
  | storage (hstorage : readSource backup = Except.error e)
  | name {window : RecoveryWindow} (hwindow : backup.window = Except.ok window)
      (hname : Name.check (targetName o source (o.instant.getD window.latest)) Name.clusterLimit =
        Except.error e)
  | gone (hgone : Heard h (.getCluster o.sourceScope source) none)
  | failed (hfailed : ¬ AllSucceed h)

theorem ensures_planFor (o : RestoreOptions) (source : String) (backup : BackupRecord)
    (h : History Server) :
    Ensures Looking (fun h p => Drafted o h source backup p)
      (fun h e => Hindered o h source backup e) (planFor o source backup) h := by
  unfold planFor
  rw [Operation.ensures_bind, ensures_of]
  cases hwindow : backup.window with
  | error e => exact .window hwindow
  | ok window =>
      show Ensures _ _ _ (Operation.of _ >>= fun _ => _) _
      rw [Operation.ensures_bind, ensures_of]
      cases hstorage : readSource backup with
      | error e => exact .storage hstorage
      | ok storageName =>
          show Ensures _ _ _ (Operation.of _ >>= fun _ => _) _
          rw [Operation.ensures_bind, ensures_of]
          cases hname : Name.check (targetName o source (o.instant.getD window.latest))
              Name.clusterLimit with
          | error e => exact .name hwindow hname
          | ok _ =>
              show Ensures _ _ _ (Operation.namespaceExists _ >>= fun _ => _) _
              rw [Operation.ensures_bind]
              apply ensures_send.mpr
              refine ⟨rfl, fun doesExist : Bool => ?_,
                fun e => .failed (not_allSucceed_of_error h _ e)⟩
              rw [Operation.ensures_bind]
              refine (Clone.ensures_plan _ _).mono (fun _ _ hr => hr) ?_ ?_
              · intro more clone hclone
                exact ⟨window, storageName, doesExist, clone, hwindow, hstorage,
                  (heard_append_singleton _ _ _).append more, hclone, rfl⟩
              · rintro more e (he | hgone)
                · exact .failed he
                · exact .gone hgone

/-- A plan was made for a source and for a backup of it that may be restored from. -/
def Sourced (o : RestoreOptions) (h : History Server) (p : Plan) : Prop :=
  ∃ source backup, Offered o h source backup ∧ Drafted o h source backup p

theorem ensures_plan_chosen (o : RestoreOptions) (h : History Server) :
    Ensures Looking
      (fun h p => ∃ source backup, Chosen o h source backup ∧ Drafted o h source backup p)
      (fun _ _ => True) (plan o) h := by
  rw [plan_eq, Operation.ensures_bind]
  refine (ensures_namedBackup o h).mono (fun _ _ hr => hr) ?_ (fun _ _ _ => trivial)
  intro first named hnamed
  rw [Operation.ensures_bind]
  refine (looks_resolveCluster _ _ _).mono (fun _ _ hr => hr) ?_ (fun _ _ _ => trivial)
  intro second cluster _
  have hstill (r : BackupRecord) (hr : r ∈ named) :
      Catalog.Read o.sourceScope ((h ++ first) ++ second) r ∧ r.isEligible = true :=
    ⟨(hnamed r hr).1.append second, (hnamed r hr).2⟩
  rw [Operation.ensures_bind]
  refine (ensures_selectBackup cluster.name hstill).mono (fun _ _ hr => hr) ?_
    (fun _ _ _ => trivial)
  intro third backup hchosen
  refine (ensures_planFor o cluster.name backup _).mono (fun _ _ hr => hr) ?_ (fun _ _ _ => trivial)
  intro more p hdrafted
  exact ⟨cluster.name, backup, hchosen.append more, hdrafted⟩

theorem ensures_plan_sourced (o : RestoreOptions) (h : History Server) :
    Ensures Looking (fun h p => Sourced o h p) (fun _ _ => True) (plan o) h := by
  refine (ensures_plan_chosen o h).mono (fun _ _ hr => hr) ?_ (fun _ _ _ => trivial)
  rintro more p ⟨source, backup, hchosen, hdrafted⟩
  exact ⟨source, backup, hchosen.offered, hdrafted⟩

/-- A plan is assembled from what was chosen and from what was found. -/
def Surveyed (o : RestoreOptions) (h : History Server) (p : Plan) : Prop :=
  ∃ (source : String) (backup : BackupRecord) (window : RecoveryWindow) (instant : Instant)
    (storageName : String) (doesExist : Bool) (clone : Clone.Preview),
    readSource backup = Except.ok storageName ∧
      Heard h (.namespaceExists o.target) doesExist ∧
      Clone.Previewed
        ⟨o.sourceScope, source, o.target, targetName o source instant, some storageName⟩ h clone ∧
      p = assemble o source backup window instant storageName doesExist clone

theorem Sourced.surveyed {o : RestoreOptions} {h : History Server} {p : Plan}
    (hp : Sourced o h p) : Surveyed o h p := by
  rcases hp with ⟨source, backup, _, window, storageName, doesExist, clone, _, hstorage, hexists,
    hclone, rfl⟩
  exact ⟨source, backup, window, _, storageName, doesExist, clone, hstorage, hexists, hclone, rfl⟩

theorem ensures_plan (o : RestoreOptions) (h : History Server) :
    Ensures Looking (fun h p => Surveyed o h p) (fun _ _ => True) (plan o) h :=
  (ensures_plan_sourced o h).mono (fun _ _ hr => hr) (fun _ _ hp => hp.surveyed)
    (fun _ _ _ => trivial)

/-!
## Planning never waits
-/

theorem prompt_listAll (scope : String) : Procedure.Prompt (Catalog.listAll scope) := by
  unfold Catalog.listAll
  refine Procedure.prompt_bind (prompt_send _) ?_
  rintro (e | ⟨_ | ⟨b, rest⟩⟩)
  · trivial
  · trivial
  · refine Procedure.prompt_bind (prompt_send _) ?_
    rintro (e | clusters) <;> trivial

theorem prompt_list (scope : String) : Procedure.Prompt (Catalog.list scope) :=
  Procedure.prompt_bind (prompt_listAll scope) fun _ => trivial

theorem prompt_namedBackup (o : RestoreOptions) : Prompt (namedBackup o) := by
  unfold namedBackup
  split
  · trivial
  · rw [map_eq_pure_bind]
    refine prompt_bind ?_ fun _ => prompt_of _
    unfold Catalog.get
    refine prompt_bind (prompt_lift (prompt_listAll _)) fun _ => ?_
    refine prompt_bind (prompt_orMissing _ _) fun _ => ?_
    split <;> trivial

theorem prompt_resolveCluster (scope : String) (name : Option String) :
    Prompt (resolveCluster scope name) := by
  unfold resolveCluster
  split
  · exact prompt_bind (prompt_send _) fun _ => prompt_orMissing _ _
  · refine prompt_bind (prompt_send _) fun clusters => ?_
    split <;> trivial

theorem prompt_selectBackup (o : RestoreOptions) (source : String)
    (named : Option BackupRecord) : Prompt (selectBackup o source named) := by
  unfold selectBackup
  split
  · unfold chooseBackup
    exact prompt_bind (prompt_lift (prompt_list _)) fun _ => prompt_orMissing _ _
  · split <;> trivial

theorem prompt_clonePlan (req : Clone.Request) : Prompt (Clone.plan req) := by
  unfold Clone.plan Clone.source
  refine prompt_bind (prompt_bind (prompt_send _) fun _ => prompt_orMissing _ _) fun cluster => ?_
  refine prompt_bind (prompt_send _) fun existing => ?_
  refine prompt_bind (prompt_mapM ?_ _) fun _ => prompt_of _
  intro ref
  exact prompt_bind (prompt_send _) fun _ => prompt_bind (prompt_send _) fun _ => prompt_of _

theorem prompt_plan (o : RestoreOptions) : Prompt (plan o) := by
  unfold plan
  refine prompt_bind (prompt_namedBackup o) fun named => ?_
  refine prompt_bind (prompt_resolveCluster _ _) fun cluster => ?_
  refine prompt_bind (prompt_selectBackup _ _ _) fun backup => ?_
  refine prompt_bind (prompt_of _) fun window => ?_
  refine prompt_bind (prompt_of _) fun storageName => ?_
  refine prompt_bind (prompt_of _) fun _ => ?_
  refine prompt_bind (prompt_send _) fun doesExist => ?_
  exact prompt_bind (prompt_clonePlan _) fun _ => prompt_of _

/-!
## An example

A cluster with two storage profiles, of which one has lost its secret, its only backup, and an empty
namespace beside it.
-/

def exampleProfile (backend secret : String) : Json :=
  .obj [(backend, .obj [("credentialsSecret", .str secret)])]

def exampleCluster : Json :=
  .obj
    [("metadata", .obj [("name", .str "c1"), ("namespace", .str "prod")]),
      ("spec", .obj
        [("backup", .obj
          [("storages", .obj
            [("azure", exampleProfile "azure" "blob"), ("s3", exampleProfile "s3" "aws")])])])]

def exampleSecret (name : String) : Json :=
  .obj
    [("apiVersion", .str "v1"), ("kind", .str "Secret"),
      ("metadata", .obj [("name", .str name), ("namespace", .str "prod")])]

def exampleBackup : Json :=
  .obj
    [("metadata", .obj [("name", .str "b1"), ("namespace", .str "prod")]),
      ("spec", .obj [("pxcCluster", .str "c1"), ("storageName", .str "s3")]),
      ("status", .obj
        [("state", .str "Succeeded"), ("completed", .str "2025-01-01T00:00:00Z"),
          ("destination", .str "s3://b/b1")])]

def exampleStore : Store where
  namespaces := ["prod", "staging"]
  clusters := [exampleCluster]
  backups := [exampleBackup]
  secrets := [exampleSecret "c1-secrets", exampleSecret "aws"]

def exampleStamp : Stamp :=
  ⟨.epoch, "bcdfg"⟩

/-- A copy of the cluster in a namespace, which may have to be created. -/
def exampleOptions (target : String) : RestoreOptions where
  sourceScope := "prod"
  targetScope := some target
  targetCluster := some "c2"
  createNamespace := true

theorem exists_ok_of_any {α : Type} {outcome : Except Error α} {P : α → Bool}
    (h : outcome.toOption.any P = true) : ∃ a, outcome = Except.ok a ∧ P a = true := by
  cases outcome with
  | error e => cases h
  | ok a => exact ⟨a, rfl, h⟩

end Workflow
end PointInTime
