import PointInTime.Proofs.Workflow.Survey

/-!
# The choice of a backup

A caller that names no backup gets one chosen.  A backup is chosen for an instant that none covers
as well, so that the plan can say what could be restored instead; the plan is then blocked.

Main statement: on a server that can be read, the backup considered is the best of the source for
what was asked, whatever order the backups are listed in, and the plan is blocked by the instant
exactly if that backup does not cover it.
-/

namespace PointInTime
namespace Workflow

open Operation

/-!
## What a plan says of the instant
-/

variable {o : RestoreOptions} {p : Plan} {r : BackupRecord} {t : Instant} {source : String}

/-- Where the instant lies in the window, no finding says otherwise. -/
theorem outOfRange_notMem_blockersOf {findings : List Finding}
    (hfindings : ∀ f ∈ findings, ∀ requested earliest latest,
      f.2 ≠ some (.outOfRange requested earliest latest)) (requested earliest latest : Instant) :
    .outOfRange requested earliest latest ∉ blockersOf findings := by
  intro hmem
  rcases List.mem_filterMap.mp hmem with ⟨f, hf, hblocker⟩
  exact hfindings f hf requested earliest latest hblocker

/-- What a plan says of the instant, for the backup that it considers: the end of the window is
always fine, and an instant that is not covered is what blocks the plan first. -/
structure Weighs (instant : Option Instant) (r : BackupRecord) (p : Plan) : Prop where
  backup : p.backup = r
  window : r.window? = some p.window
  unrequested : instant = none → p.instant = p.window.latest ∧
    ∀ requested earliest latest, .outOfRange requested earliest latest ∉ p.blockers
  requested : ∀ t, instant = some t → p.instant = t ∧
    (¬ Covers t r → p.blockers.head? = some (.outOfRange t p.window.earliest p.window.latest))

section

variable {window : RecoveryWindow} {storageName : String} {doesExist : Bool}
variable {clone : Clone.Preview}

theorem outOfRange_notMem_assemble (hmem : t ∈ window) (requested earliest latest : Instant) :
    .outOfRange requested earliest latest ∉
      (assemble o source r window t storageName doesExist clone).blockers := by
  apply outOfRange_notMem_blockersOf
  intro f hf requested earliest latest
  simp only [List.cons_append, List.nil_append, List.mem_cons, List.mem_map] at hf
  rcases hf with rfl | rfl | rfl | rfl | rfl | ⟨credential, _, rfl⟩
  · nofun
  · nofun
  · simp [windowFinding, hmem]
  · simp only [namespaceFinding]
    split <;> nofun
  · simp only [nameFinding]
    split <;> nofun
  · simp only [credentialFinding]
    split <;> nofun

theorem head?_blockers_assemble (hout : t ∉ window) :
    (assemble o source r window t storageName doesExist clone).blockers.head? =
      some (.outOfRange t window.earliest window.latest) := by
  simp [assemble, blockersOf, sourceFinding, backupFinding, windowFinding, hout]

end

theorem Drafted.weighs {h : History Server} (hp : Drafted o h source r p) :
    Weighs o.instant r p := by
  rcases hp with ⟨window, storageName, doesExist, clone, hwindow, _, _, _, rfl⟩
  have hwindow : r.window? = some window := BackupRecord.window_eq_ok_iff.mp hwindow
  refine ⟨rfl, hwindow, ?_, ?_⟩
  · intro hnone
    rw [hnone]
    have hlatest : window.latest ∈ window :=
      ⟨(BackupRecord.window?_eq_some hwindow).2, Instant.le_refl _⟩
    exact ⟨rfl, outOfRange_notMem_assemble hlatest⟩
  · intro t ht
    rw [ht]
    refine ⟨rfl, fun hcovers => head?_blockers_assemble ?_⟩
    exact fun hmem => hcovers ⟨window, hwindow, hmem⟩

/-!
## The choice
-/

variable {x : Store} {stamp : Stamp} {c : Clock} {backups : List Backup}
variable {clusters : List Cluster}

theorem looks_chooseBackup (scope source : String) (instant : Option Instant) :
    Looks (chooseBackup scope source instant) :=
  looks_of_ensures (ensures_chooseBackup { sourceScope := scope, instant := instant } source)

theorem plan_of_unnamed (hunnamed : o.backupName = none) :
    plan o = resolveCluster o.sourceScope o.sourceCluster >>= fun cluster =>
      chooseBackup o.sourceScope cluster.name o.instant >>= planFor o cluster.name := by
  rw [plan_eq]
  unfold namedBackup
  rw [hunnamed, pure_bind, Option.map_none, Option.or_none]
  rfl

theorem run_listAll {scope : String}
    (hbackups : (x.perform (.listBackups scope)).1 = Except.ok backups)
    (hclusters : (x.perform (.listClusters scope)).1 = Except.ok clusters) :
    Procedure.run (Store.serving id stamp) (Catalog.listAll scope) c x =
      (Catalog.records backups clusters, c, x) := by
  have hfirst : Procedure.run (Store.serving id stamp) (Operation.listBackups scope).run c x =
      (Except.ok backups, c, x) := Store.run_send_of_isLook rfl hbackups
  have hsecond : Procedure.run (Store.serving id stamp) (Operation.listClusters scope).run c x =
      (Except.ok clusters, c, x) := Store.run_send_of_isLook rfl hclusters
  unfold Catalog.listAll
  rw [Procedure.bind_eq_bind, Procedure.run_bind, hfirst]
  cases backups with
  | nil =>
      rw [Catalog.records_nil]
      rfl
  | cons b rest =>
      show Procedure.run _ (Procedure.bind _ _) c x = _
      rw [Procedure.run_bind, hsecond]
      rfl

theorem outcome_chooseBackup {scope : String} (stamp : Stamp) (c : Clock) (source : String)
    (instant : Option Instant)
    (hbackups : (x.perform (.listBackups scope)).1 = Except.ok backups)
    (hclusters : (x.perform (.listClusters scope)).1 = Except.ok clusters) :
    x.outcome stamp c (chooseBackup scope source instant) =
      match pick? instant (lineup backups clusters source) with
      | some r => Except.ok r
      | none => Except.error (.missing "backup" ("for cluster " ++ source) scope) := by
  have hlist : x.outcome stamp c (liftM (Catalog.list scope) : Operation _) =
      Except.ok ((Catalog.records backups clusters).filter (·.isEligible)) := by
    rw [Store.outcome_lift]
    unfold Catalog.list
    rw [Procedure.bind_eq_bind, Procedure.run_bind, run_listAll hbackups hclusters]
    rfl
  have hlooks : Looks (liftM (Catalog.list scope) : Operation (List BackupRecord)) := by
    intro h
    rw [ensures_lift]
    exact (Catalog.ensures_list scope h).mono (fun _ _ hr => hr) (fun _ _ _ => trivial)
  unfold chooseBackup
  rw [Store.outcome_bind hlooks (prompt_lift (prompt_list scope)), hlist]
  show x.outcome stamp c (orMissing _ (pick? instant (lineup backups clusters source))) = _
  cases pick? instant (lineup backups clusters source) <;> rfl

theorem chosen_backup_is_best (stamp : Stamp) (c : Clock) {cluster : Cluster}
    (hunnamed : o.backupName = none)
    (hbackups : (x.perform (.listBackups o.sourceScope)).1 = Except.ok backups)
    (hclusters : (x.perform (.listClusters o.sourceScope)).1 = Except.ok clusters)
    (hsource : x.outcome stamp c (resolveCluster o.sourceScope o.sourceCluster) =
      Except.ok cluster) :
    let C := IsCandidate backups clusters cluster.name
    let choice := chooseBackup o.sourceScope cluster.name o.instant
    ((∀ r, ¬ C r) → x.outcome stamp c (plan o) = Except.error
        (.missing "backup" ("for cluster " ++ cluster.name) o.sourceScope)) ∧
      ((∃ r, C r) → ∃ r, x.outcome stamp c choice = Except.ok r ∧ IsChoice C r o.instant ∧
        x.outcome stamp c (plan o) = x.outcome stamp c (planFor o cluster.name r) ∧
        ∀ p, x.outcome stamp c (plan o) = Except.ok p → Weighs o.instant r p) ∧
      ((∀ a b, C a → C b → a.completedAt = b.completedAt → a = b) →
        ∀ (y : Store) (listed : List Backup),
          (y.perform (.listBackups o.sourceScope)).1 = Except.ok listed → listed.Perm backups →
          (y.perform (.listClusters o.sourceScope)).1 = Except.ok clusters →
          y.outcome stamp c choice = x.outcome stamp c choice) := by
  intro C choice
  have hchoice := outcome_chooseBackup stamp c cluster.name o.instant hbackups hclusters
  have hplan : x.outcome stamp c (plan o) =
      x.outcome stamp c choice >>= fun r => x.outcome stamp c (planFor o cluster.name r) := by
    rw [plan_of_unnamed hunnamed,
      Store.outcome_bind (looks_resolveCluster _ _) (prompt_resolveCluster _ _), hsource]
    exact Store.outcome_bind (looks_chooseBackup _ _ _)
      (prompt_selectBackup o cluster.name none) _
  refine ⟨?_, ?_, ?_⟩
  · intro hempty
    rw [hplan, hchoice, pick?_lineup_eq_none.mpr hempty]
    rfl
  · rintro ⟨r₀, hr₀⟩
    obtain ⟨r, hpick⟩ := exists_pick? o.instant (mem_lineup.mpr hr₀)
    rw [hpick] at hchoice
    have hconsidered : x.outcome stamp c (plan o) =
        x.outcome stamp c (planFor o cluster.name r) := by
      rw [hplan, hchoice]
      rfl
    refine ⟨r, hchoice, isChoice_of_lineup hpick, hconsidered, ?_⟩
    intro p hp
    rw [hconsidered] at hp
    obtain ⟨h, _, hdrafted⟩ := Store.exists_bears_of_outcome (ensures_planFor o _ r []) hp
    exact hdrafted.weighs
  · intro hdistinct y listed hlisted hperm hclusters'
    rw [hchoice, outcome_chooseBackup stamp c cluster.name o.instant hlisted hclusters',
      pick?_lineup_of_perm hperm hdistinct]

/-- A second backup of the cluster, of two days later. -/
def exampleLater : Json :=
  .obj
    [("metadata", .obj [("name", .str "b2"), ("namespace", .str "prod")]),
      ("spec", .obj [("pxcCluster", .str "c1"), ("storageName", .str "s3")]),
      ("status", .obj
        [("state", .str "Succeeded"), ("completed", .str "2025-01-03T00:00:00Z"),
          ("destination", .str "s3://b/b2")])]

def exampleCatalog (backups : List Json) : Store :=
  { exampleStore with backups := backups }

def exampleListing : List Backup :=
  [exampleBackup, exampleLater].filterMap fun j => (Object.ofJson? j).bind Backup.ofObject?

/-- An instant between the two backups, which neither of them covers. -/
def exampleNoon : Instant :=
  ⟨1735819200, 0, by decide⟩

theorem chosen_backup_between_two :
    let x := exampleCatalog [exampleBackup, exampleLater]
    let y := exampleCatalog [exampleLater, exampleBackup]
    let choice := chooseBackup "prod" "c1" (some exampleNoon)
    (∃ clusters r, x.outcome exampleStamp {} choice = Except.ok r ∧
        IsChoice (IsCandidate exampleListing clusters "c1") r (some exampleNoon)) ∧
      y.outcome exampleStamp {} choice = x.outcome exampleStamp {} choice := by
  intro x y choice
  obtain ⟨cluster, hcluster, hname⟩ : ∃ cluster : Cluster,
      x.outcome exampleStamp {} (resolveCluster "prod" none) = Except.ok cluster ∧
        (cluster.name == "c1") = true := by
    apply exists_ok_of_any
    decide +kernel
  obtain ⟨clusters, hclusters, -⟩ : ∃ clusters : List Cluster,
      (x.perform (.listClusters "prod")).1 = Except.ok clusters ∧ true = true := by
    apply exists_ok_of_any (P := fun _ => true)
    decide +kernel
  have hname : cluster.name = "c1" := eq_of_beq hname
  have hbackups : (x.perform (.listBackups "prod")).1 = Except.ok exampleListing := rfl
  obtain ⟨-, hchoice, horder⟩ := chosen_backup_is_best exampleStamp {}
    (o := { exampleOptions "staging" with instant := some exampleNoon }) rfl hbackups hclusters
    hcluster
  rw [hname] at hchoice horder
  constructor
  · have hfirst : ∃ b ∈ exampleListing, b.state = .succeeded ∧ b.spec.cluster = "c1" ∧
        (b.status.getD {}).completed.isSome = true := by
      decide +kernel
    obtain ⟨b, hb, hsucceeded, hsource, hcompleted⟩ := hfirst
    obtain ⟨r, hr, hbest, -⟩ :=
      hchoice ⟨_, ⟨b, hb, rfl⟩, hsucceeded, hsource, Option.isSome_iff_exists.mp hcompleted⟩
    exact ⟨clusters, r, hr, hbest⟩
  · have hdistinct : ∀ b ∈ exampleListing, ∀ b' ∈ exampleListing,
        (b.status.getD {}).completed = (b'.status.getD {}).completed → b = b' := by
      decide +kernel
    apply horder ?_ y exampleListing.reverse rfl (List.reverse_perm _) hclusters
    rintro _ _ ⟨⟨b, hb, rfl⟩, -⟩ ⟨⟨b', hb', rfl⟩, -⟩ hsame
    rw [hdistinct b hb b' hb' hsame]

end Workflow
end PointInTime
