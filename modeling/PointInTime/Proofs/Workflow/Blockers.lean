import PointInTime.Proofs.Workflow.Copying
import PointInTime.Proofs.Workflow.Credentials
import PointInTime.Proofs.Workflow.Latest

/-!
# What blocks a plan

Whoever reads a plan wants to know all that stands in its way at once, and nothing that does not.
The checks of a plan say the same as its blockers, and each blocker has one check that failed.

Main statement: a plan that can be made lists an instant out of reach, a missing namespace, a taken
name and each essential secret that neither namespace has, in this order, once, and nothing else;
and the checks that failed are those of the blockers, one after the other.
-/

namespace PointInTime

open Operation

namespace Clone

/-!
## Missing secrets
-/

/-- A secret is essential and in neither namespace. -/
def Lacks (s : Store) (req : Request) (ref : CredentialRef) : Prop :=
  ref.essential = true ∧ ¬ s.HasSecret req.sourceScope ref.secret ∧
    ¬ s.HasSecret req.targetScope ref.secret

instance (s : Store) (req : Request) (ref : CredentialRef) : Decidable (Lacks s req ref) :=
  inferInstanceAs (Decidable (_ ∧ _))

/-- The essential secrets of a definition that neither namespace has, as the definition has them. -/
structure AreMissing (s : Store) (req : Request) (cluster : Cluster)
    (missing : List CredentialRef) : Prop where
  ordered : missing.Sublist (credentialRefs cluster req.restoreStorage)
  distinct : (missing.map (·.secret)).Nodup
  mem_iff : ∀ name, name ∈ missing.map (·.secret) ↔
    IsEssential cluster req.restoreStorage name ∧ ¬ s.HasSecret req.sourceScope name ∧
      ¬ s.HasSecret req.targetScope name

theorem areMissing_filter (s : Store) (req : Request) (cluster : Cluster) :
    AreMissing s req cluster
      ((credentialRefs cluster req.restoreStorage).filter fun ref => Lacks s req ref) := by
  have hsublist := List.filter_sublist (p := fun ref => decide (Lacks s req ref))
    (l := credentialRefs cluster req.restoreStorage)
  refine ⟨hsublist, ?_, ?_⟩
  · exact (hsublist.map _).nodup (nodup_credentialRefs cluster req.restoreStorage)
  · intro name
    rw [← requires_credentialRefs_iff]
    constructor
    · intro hname
      obtain ⟨ref, hmem, rfl⟩ := List.mem_map.mp hname
      obtain ⟨hlisted, hlacks⟩ := List.mem_filter.mp hmem
      obtain ⟨hessential, habsent⟩ := of_decide_eq_true hlacks
      exact ⟨⟨ref, hlisted, rfl, hessential⟩, habsent⟩
    · rintro ⟨⟨ref, hlisted, rfl, hessential⟩, habsent⟩
      apply List.mem_map_of_mem
      exact List.mem_filter.mpr ⟨hlisted, decide_eq_true ⟨hessential, habsent⟩⟩

theorem Holds.isBlocking {s : Store} {req : Request} {ref : CredentialRef} {c : CredentialPlan}
    (hc : Holds s req ref c) : c.isBlocking = decide (Lacks s req ref) := by
  obtain ⟨inSource, inTarget, hsource, htarget, rfl⟩ := hc
  have hsource := Store.isSome_of_readOne hsource
  have htarget := Store.isSome_of_readOne htarget
  rw [Bool.eq_iff_iff]
  simp [CredentialPlan.isBlocking, hsource, htarget, Lacks, Store.HasSecret,
    ← Option.isSome_iff_exists, and_assoc]

end Clone

namespace Workflow

/-!
## Failed checks
-/

/-- The check that raises a blocker when it fails. -/
def Blocker.failedCheck : Blocker → Check
  | .outOfRange requested earliest latest =>
      ⟨"recovery window", false,
        requested.format ++ " in " ++ RecoveryWindow.text ⟨earliest, latest⟩⟩
  | .missingNamespace scope => ⟨"target namespace", false, scope ++ " does not exist"⟩
  | .nameCollision scope cluster =>
      ⟨"cluster name", false, cluster ++ " already exists in " ++ scope⟩
  | .missingCredential secret purpose =>
      ⟨"credential " ++ secret ++ " (" ++ purpose ++ ")", false, "missing in source"⟩

@[simp] theorem Blocker.passed_failedCheck (b : Blocker) : b.failedCheck.passed = false := by
  cases b <;> rfl

/-- A check passed, or it failed and raised the blocker that is its own. -/
def Agrees (f : Finding) : Prop :=
  match f.2 with
  | none => f.1.passed = true
  | some b => f.1 = b.failedCheck

theorem failed_checksOf {findings : List Finding} (h : ∀ f ∈ findings, Agrees f) :
    (checksOf findings).filter (fun c => !c.passed) =
      (blockersOf findings).map Blocker.failedCheck := by
  induction findings with
  | nil => rfl
  | cons f rest ih =>
      obtain ⟨hf, hrest⟩ := List.forall_mem_cons.mp h
      have ih := ih hrest
      rcases f with ⟨check, _ | b⟩
      · have hpassed : check.passed = true := hf
        simpa [checksOf, blockersOf, hpassed] using ih
      · have hfailed : check = b.failedCheck := hf
        simpa [checksOf, blockersOf, hfailed] using ih

theorem agrees_windowFinding (window : RecoveryWindow) (instant : Instant) :
    Agrees (windowFinding window instant) := by
  by_cases h : instant ∈ window <;> simp [Agrees, windowFinding, h, Blocker.failedCheck]

theorem agrees_namespaceFinding (scope : String) (doesExist create : Bool) :
    Agrees (namespaceFinding scope doesExist create) := by
  cases doesExist <;> cases create <;> simp [Agrees, namespaceFinding, Blocker.failedCheck]

theorem agrees_nameFinding (clone : Clone.Preview) : Agrees (nameFinding clone) := by
  cases h : clone.collision <;> simp [Agrees, nameFinding, h, Blocker.failedCheck]

theorem agrees_credentialFinding (c : Clone.CredentialPlan) : Agrees (credentialFinding c) := by
  cases h : c.isBlocking with
  | false => simp [Agrees, credentialFinding, h]
  | true =>
      have hwhy := h
      simp only [Clone.CredentialPlan.isBlocking, Bool.and_eq_true, Bool.not_eq_true'] at hwhy
      simp [Agrees, credentialFinding, h, hwhy, Blocker.failedCheck]

theorem failed_checks_assemble (o : RestoreOptions) (source : String) (backup : BackupRecord)
    (window : RecoveryWindow) (instant : Instant) (storageName : String) (doesExist : Bool)
    (clone : Clone.Preview) :
    let p := assemble o source backup window instant storageName doesExist clone
    p.checks.filter (fun c => !c.passed) = p.blockers.map Blocker.failedCheck := by
  apply failed_checksOf
  intro f hf
  rcases List.mem_append.mp hf with hfixed | hcredential
  · simp only [List.mem_cons, List.not_mem_nil, or_false] at hfixed
    rcases hfixed with rfl | rfl | rfl | rfl | rfl
    · rfl
    · rfl
    · exact agrees_windowFinding window instant
    · exact agrees_namespaceFinding o.target doesExist o.createNamespace
    · exact agrees_nameFinding clone
  · obtain ⟨c, -, rfl⟩ := List.mem_map.mp hcredential
    exact agrees_credentialFinding c

/-!
## Blockers
-/

theorem blockersOf_credentials {s : Store} {req : Clone.Request} {refs : List Clone.CredentialRef}
    {credentials : List Clone.CredentialPlan}
    (h : List.Forall₂ (Clone.Holds s req) refs credentials) :
    blockersOf (credentials.map credentialFinding) =
      (refs.filter fun ref => Clone.Lacks s req ref).map fun ref =>
        .missingCredential ref.secret ref.purpose := by
  induction h with
  | nil => rfl
  | @cons ref c refs credentials hc _ ih =>
      have hblocking := hc.isBlocking
      have hnamed : c.secret = ref.secret ∧ c.purpose = ref.purpose := by
        obtain ⟨_, _, _, _, rfl⟩ := hc
        exact ⟨rfl, rfl⟩
      unfold blockersOf at ih ⊢
      rw [List.map_cons, List.filterMap_cons, List.filter_cons, ← hblocking, ih]
      cases hb : c.isBlocking <;> simp [credentialFinding, hb, hnamed]

theorem blockers_assemble (o : RestoreOptions) (source : String) (backup : BackupRecord)
    (window : RecoveryWindow) (instant : Instant) (storageName : String) (doesExist : Bool)
    (clone : Clone.Preview) :
    (assemble o source backup window instant storageName doesExist clone).blockers =
      (if instant ∈ window then [] else [.outOfRange instant window.earliest window.latest]) ++
        (if doesExist = true ∨ o.createNamespace = true then []
          else [.missingNamespace o.target]) ++
        (if clone.collision = true then [.nameCollision clone.targetScope clone.targetCluster]
          else []) ++
        blockersOf (clone.credentials.map credentialFinding) := by
  have hsplit : (assemble o source backup window instant storageName doesExist clone).blockers =
      blockersOf ([windowFinding window instant] ++
        [namespaceFinding o.target doesExist o.createNamespace] ++ [nameFinding clone] ++
        clone.credentials.map credentialFinding) := rfl
  have hone (f : Finding) : blockersOf [f] = f.2.toList := by
    rcases f with ⟨check, _ | b⟩ <;> rfl
  rw [hsplit, blockersOf_append, blockersOf_append, blockersOf_append, hone, hone, hone]
  congr 1
  congr 1
  · congr 1
    · by_cases h : instant ∈ window <;> simp [windowFinding, h]
    · cases doesExist <;> cases hcreate : o.createNamespace <;> simp [namespaceFinding]
  · cases h : clone.collision <;> simp [nameFinding, h]

/-!
## The whole report
-/

section

variable {stamp : Stamp} {c : Clock} {s : Store} {o : RestoreOptions} {p : Plan}

theorem blockers_of_drafted {h : History Server} {name : String} {backup : BackupRecord}
    (hs : s.Bears h) (hp : Drafted o h name backup p) :
    ∃ source missing,
      (s.perform (.getCluster o.sourceScope p.sourceCluster)).1 = Except.ok (some source) ∧
        Clone.AreMissing s
          ⟨o.sourceScope, p.sourceCluster, o.target, p.targetCluster, some p.storageName⟩ source
          missing ∧
        p.blockers =
          (if p.instant ∈ p.window then []
            else [.outOfRange p.instant p.window.earliest p.window.latest]) ++
          (if o.target ∈ s.namespaces ∨ o.createNamespace = true then []
            else [.missingNamespace o.target]) ++
          (if (Store.find? o.target p.targetCluster s.clusters).isSome = true then
            [.nameCollision o.target p.targetCluster]
            else []) ++
          missing.map (fun ref => .missingCredential ref.secret ref.purpose) := by
  obtain ⟨window, storageName, doesExist, clone, -, -, hexists, hclone, rfl⟩ := hp
  obtain ⟨source, existing, credentials, hsource, hexisting, hseen, rfl⟩ := hclone
  have hnamespace : doesExist = true ↔ o.target ∈ s.namespaces := by
    rw [← Except.ok.inj (hs _ _ hexists)]
    exact List.contains_iff_mem
  have hcollision := Store.isSome_of_readOne (hs _ _ hexisting)
  have hheld := hseen.imp fun _ _ hc => Clone.Seen.holds hs hc
  refine ⟨source, _, hs _ _ hsource, Clone.areMissing_filter s _ source, ?_⟩
  rw [blockers_assemble, blockersOf_credentials hheld]
  simp only [hnamespace, hcollision]
  rfl

theorem plan_reports_blockers (hp : s.outcome stamp c (plan o) = Except.ok p) :
    ∃ (source : Cluster) (missing : List Clone.CredentialRef) (b : Backup) (archives : Bool),
      (s.perform (.getCluster o.sourceScope p.sourceCluster)).1 = Except.ok (some source) ∧
        Clone.AreMissing s
          ⟨o.sourceScope, p.sourceCluster, o.target, p.targetCluster, some p.storageName⟩ source
          missing ∧
        s.HoldsBackup o.sourceScope b ∧ p.backup = .ofBackup b archives ∧
        (AllSucceed (Procedure.exchanges (Store.serving id stamp) (plan o).run c s) →
          archives = s.Archives o.sourceScope b.spec.cluster) ∧
        p.backup.window? = some p.window ∧ p.instant = o.instant.getD p.window.latest ∧
        p.blockers =
          (if p.instant ∈ p.window then []
            else [.outOfRange p.instant p.window.earliest p.window.latest]) ++
          (if o.target ∈ s.namespaces ∨ o.createNamespace = true then []
            else [.missingNamespace o.target]) ++
          (if (Store.find? o.target p.targetCluster s.clusters).isSome = true then
            [.nameCollision o.target p.targetCluster]
            else []) ++
          missing.map (fun ref => .missingCredential ref.secret ref.purpose) ∧
        p.checks.filter (fun check => !check.passed) = p.blockers.map Blocker.failedCheck ∧
        (p.checks.filter fun check => !check.passed).length = p.blockers.length := by
  have hends := Procedure.ends_of_ensuresIn (Store.serving id stamp) id Store.alone_serving
    (ensuresIn_alone_of_looking (ensures_plan_chosen o []) s.bears_nil) c
  unfold Store.outcome at hp
  rw [hp] at hends
  obtain ⟨-, hbears, name, backup, hchosen, hdrafted⟩ := hends
  obtain ⟨backups, listing, b, hbackups, hlisting, hb, rfl⟩ := hchosen.read
  obtain ⟨source, missing, hsource, hmissing, hblockers⟩ := blockers_of_drafted hbears hdrafted
  have hchecks : p.checks.filter (fun check => !check.passed) =
      p.blockers.map Blocker.failedCheck := by
    obtain ⟨_, _, _, _, -, -, -, -, rfl⟩ := hdrafted
    exact failed_checks_assemble _ _ _ _ _ _ _ _
  have hweighs := hdrafted.weighs
  have hheld := (Store.mem_listed_iff (hbears _ _ hbackups)).mp hb
  refine ⟨source, missing, b, _, hsource, hmissing, hheld, hweighs.backup, ?_, ?_, ?_, hblockers,
    hchecks, ?_⟩
  · intro hall
    cases listing with
    | error e => exact absurd (hall _ hlisting) id
    | ok clusters => exact Store.archivesLogs_of_listed (hbears _ _ hlisting) _
  · rw [hweighs.backup]
    exact hweighs.window
  · obtain ⟨_, _, _, _, -, -, -, -, rfl⟩ := hdrafted
    rfl
  · rw [hchecks, List.length_map]

end

/-- The example with a cluster in a namespace that is not there, and without root credentials. -/
def exampleBlocked : Store :=
  { exampleStore with
    clusters :=
      [exampleCluster,
        .obj [("metadata", .obj [("name", .str "c2"), ("namespace", .str "dev")])]]
    secrets := [exampleSecret "aws"] }

theorem four_blockers :
    let completion : Instant := ⟨1735689600, 0, by decide⟩
    ∃ p, exampleBlocked.outcome exampleStamp {} (plan exampleRefused) = Except.ok p ∧
      p.blockers =
        [.outOfRange .epoch completion completion, .missingNamespace "dev",
          .nameCollision "dev" "c2", .missingCredential "c1-secrets" "root credentials"] ∧
      (p.checks.filter fun check => !check.passed).length = 4 := by
  intro completion
  have hplan : (exampleBlocked.outcome exampleStamp {} (plan exampleRefused)).toOption.any
      (fun p => p.blockers ==
        [.outOfRange .epoch completion completion, .missingNamespace "dev",
          .nameCollision "dev" "c2", .missingCredential "c1-secrets" "root credentials"]) =
      true := by
    decide +kernel
  obtain ⟨p, hp, hblockers⟩ := exists_ok_of_any hplan
  have hblockers := eq_of_beq hblockers
  obtain ⟨_, _, _, _, -, -, -, -, -, -, -, -, -, hlength⟩ := plan_reports_blockers hp
  rw [hblockers] at hlength
  exact ⟨p, hp, hblockers, hlength⟩

end Workflow
end PointInTime
