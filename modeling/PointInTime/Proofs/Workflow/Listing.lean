import PointInTime.Proofs.Workflow.Latest

/-!
# Listings and plans

A caller picks a backup from a listing and has a restore from it planned.  Both read the catalog,
and both work the window out on their own.

Main statement: the listing shows a window exactly if a restore from the backup can be planned, and
then it is the window of the plan.  Recovery to any instant is shown for just those backups for
which a plan offers it, and also for those that cannot be restored from at all but would have a
window.
-/

namespace PointInTime
namespace Workflow

open Operation

variable {o : RestoreOptions} {x : Store} {stamp : Stamp} {c : Clock} {l : BackupListing}
variable {r : BackupRecord}

/-!
## One catalog for both
-/

/-- What the catalog has for a namespace. -/
def catalog (x : Store) (stamp : Stamp) (c : Clock) (scope : String) : List BackupRecord :=
  (Procedure.run (Store.serving id stamp) (Catalog.listAll scope) c x).1

def listing (x : Store) (stamp : Stamp) (c : Clock) (scope : String) : List BackupListing :=
  (Procedure.run (Store.serving id stamp) (listBackups scope) c x).1

theorem listing_eq_map (x : Store) (stamp : Stamp) (c : Clock) (scope : String) :
    listing x stamp c scope = (catalog x stamp c scope).map BackupListing.ofRecord := by
  unfold listing listBackups
  rw [Procedure.bind_eq_bind, Procedure.run_bind]
  rfl

theorem looks_listAll (scope : String) :
    Looks (liftM (Catalog.listAll scope) : Operation (List BackupRecord)) := by
  intro h
  rw [ensures_lift]
  exact (Catalog.ensures_listAll_read scope h).mono (fun _ _ hr => hr) (fun _ _ _ => trivial)

theorem looks_namedBackup (o : RestoreOptions) : Looks (namedBackup o) :=
  looks_of_ensures (ensures_namedBackup o)

/-- The first record of a name is the backup of that name, if it can be restored from. -/
theorem outcome_get {scope name : String}
    (hfound : (catalog x stamp c scope).find? (·.name == name) = some r) :
    (r.isEligible = true → x.outcome stamp c (Catalog.get scope name) = Except.ok r) ∧
      (r.isEligible = false →
        ∃ e, x.outcome stamp c (Catalog.get scope name) = Except.error e) := by
  unfold Catalog.get
  rw [Store.outcome_bind (looks_listAll scope) (prompt_lift (prompt_listAll scope)),
    Store.outcome_lift]
  show (_ → x.outcome stamp c (orMissing _ (List.find? _ (catalog x stamp c scope)) >>= _) = _) ∧
    (_ → ∃ e, x.outcome stamp c (orMissing _ (List.find? _ (catalog x stamp c scope)) >>= _) = _)
  rw [hfound]
  constructor
  · intro heligible
    show x.outcome stamp c (if r.isEligible then pure r else _) = _
    rw [if_pos heligible]
    rfl
  · intro hineligible
    show ∃ e, x.outcome stamp c (if r.isEligible then pure r else _) = _
    rw [hineligible]
    exact ⟨_, rfl⟩

/-!
## A listed backup is named
-/

/-- A listed backup, the only one of its name, is named for a restore.  It says where it lies, its
cluster is there, the cluster to be made gets a valid name, and no look of planning fails. -/
structure Considered (o : RestoreOptions) (x : Store) (stamp : Stamp) (c : Clock)
    (l : BackupListing) : Prop where
  listed : l ∈ listing x stamp c o.sourceScope
  distinct : ∀ l' ∈ listing x stamp c o.sourceScope, l'.record.name = l.record.name → l' = l
  named : o.backupName = some l.record.name
  source : o.sourceCluster = none ∨ o.sourceCluster = some l.record.cluster
  target : ∃ name, o.targetCluster = some name ∧ Name.check name Name.clusterLimit = Except.ok ()
  storage : ∃ storageName, l.record.storageName = some storageName
  destination : l.record.hasDestination = true
  cluster : ∃ cluster, cluster.name = l.record.cluster ∧
    (x.perform (.getCluster o.sourceScope l.record.cluster)).1 = Except.ok (some cluster)
  looks : AllSucceed (x.transcript stamp c (plan o))

section

variable (hl : Considered o x stamp c l)

include hl

theorem Considered.ofRecord_eq : .ofRecord l.record = l := by
  have hlisted := hl.listed
  rw [listing_eq_map] at hlisted
  rcases List.mem_map.mp hlisted with ⟨r, _, rfl⟩
  rfl

/-- Names are unique, so that the backup is found by its own. -/
theorem Considered.find? :
    (catalog x stamp c o.sourceScope).find? (·.name == l.record.name) = some l.record := by
  have hlisted := hl.listed
  have hdistinct := hl.distinct
  rw [listing_eq_map] at hlisted hdistinct
  cases hfound : (catalog x stamp c o.sourceScope).find? (·.name == l.record.name) with
  | none =>
      rcases List.mem_map.mp hlisted with ⟨r, hr, hrecord⟩
      have hname := List.find?_eq_none.mp hfound r hr
      rw [← hrecord] at hname
      exact absurd (beq_self_eq_true r.name) hname
  | some r =>
      have hname := List.find?_some hfound
      have hname : r.name = l.record.name := eq_of_beq hname
      have hsame : BackupListing.ofRecord r = l :=
        hdistinct _ (List.mem_map_of_mem (List.mem_of_find?_eq_some hfound)) hname
      rw [← hsame]
      rfl

theorem Considered.outcome_namedBackup :
    (l.record.isEligible = true →
        x.outcome stamp c (namedBackup o) = Except.ok (some l.record)) ∧
      (l.record.isEligible = false → ∃ e, x.outcome stamp c (namedBackup o) = Except.error e) := by
  have hget : namedBackup o = some <$> Catalog.get o.sourceScope l.record.name := by
    unfold namedBackup
    rw [hl.named]
  rcases outcome_get hl.find? with ⟨hok, herror⟩
  rw [hget, Store.outcome_map]
  constructor
  · intro heligible
    rw [hok heligible]
    rfl
  · intro hineligible
    rcases herror hineligible with ⟨e, he⟩
    rw [he]
    exact ⟨e, rfl⟩

theorem Considered.refused (hineligible : l.record.isEligible = false) :
    ∃ e, x.outcome stamp c (plan o) = Except.error e := by
  rcases hl.outcome_namedBackup.2 hineligible with ⟨e, he⟩
  rw [plan_eq, Store.outcome_bind (looks_namedBackup o) (prompt_namedBackup o), he]
  exact ⟨e, rfl⟩

theorem Considered.outcome_resolveCluster :
    ∃ cluster, cluster.name = l.record.cluster ∧
      x.outcome stamp c
        (resolveCluster o.sourceScope (o.sourceCluster.or (some l.record.cluster))) =
          Except.ok cluster := by
  rcases hl.cluster with ⟨cluster, hname, hread⟩
  have hhint : o.sourceCluster.or (some l.record.cluster) = some l.record.cluster := by
    rcases hl.source with hnone | hsome
    · rw [hnone, Option.none_or]
    · rw [hsome, Option.some_or]
  refine ⟨cluster, hname, ?_⟩
  rw [hhint]
  show x.outcome stamp c (send (.getCluster o.sourceScope l.record.cluster) >>= fun found =>
    orMissing _ found) = _
  rw [Store.outcome_bind (looks_send rfl) (prompt_send _), Store.outcome_send, hread]
  rfl

/-- Once the backup and its cluster are looked up, the rest of planning is for these two. -/
theorem Considered.endsAs_planFor (heligible : l.record.isEligible = true) :
    x.EndsAs stamp c (plan o) (planFor o l.record.cluster l.record) := by
  rcases hl.outcome_resolveCluster with ⟨cluster, hname, hresolved⟩
  have hselected : selectBackup o cluster.name (some l.record) = pure l.record :=
    if_pos hname.symm
  have hnamed := Store.endsAs_bind (looks_namedBackup o) (prompt_namedBackup o)
    (fun named => resolveCluster o.sourceScope (o.sourceCluster.or (named.map (·.cluster))) >>=
      fun cluster => selectBackup o cluster.name named >>= planFor o cluster.name)
    (hl.outcome_namedBackup.1 heligible)
  have hrest := Store.endsAs_bind (looks_resolveCluster _ _) (prompt_resolveCluster _ _)
    (fun cluster => selectBackup o cluster.name (some l.record) >>= planFor o cluster.name)
    hresolved
  rw [hselected, pure_bind, hname] at hrest
  rw [plan_eq]
  exact hnamed.trans hrest

/-!
## How planning ends
-/

theorem Considered.readSource_eq : ∃ storageName,
    readSource l.record = Except.ok storageName := by
  rcases hl.storage with ⟨storageName, hstorage⟩
  unfold readSource
  rw [hstorage, hl.destination]
  exact ⟨storageName, rfl⟩

/-- Nothing but a missing window is in the way of a plan. -/
theorem Considered.window_of_hindered {e : Error} {h : History Server}
    (hbears : x.Bears h) (hsucceed : AllSucceed h)
    (he : Hindered o h l.record.cluster l.record e) : l.record.window = Except.error e := by
  cases he with
  | window hwindow => exact hwindow
  | storage hstorage =>
      rcases hl.readSource_eq with ⟨_, hread⟩
      rw [hread] at hstorage
      cases hstorage
  | name _ hinvalid =>
      rcases hl.target with ⟨name, htarget, hvalid⟩
      rw [targetName, htarget, Option.getD_some, hvalid] at hinvalid
      cases hinvalid
  | gone hgone =>
      rcases hl.cluster with ⟨cluster, _, hread⟩
      rw [hbears _ _ hgone] at hread
      cases hread
  | failed hfailed => exact absurd hsucceed hfailed

/-- Planning ends as the window says: it is that of the plan, or there is no plan without it. -/
theorem Considered.outcome_plan (heligible : l.record.isEligible = true) :
    (∃ p, x.outcome stamp c (plan o) = Except.ok p ∧ l.record.window? = some p.window ∧
        p.pointInTime = l.record.pointInTimeWindow?.isSome) ∨
      (∃ e, x.outcome stamp c (plan o) = Except.error e) ∧ l.record.window? = none := by
  have hends := hl.endsAs_planFor heligible
  have hsucceed := hl.looks
  rcases hends.transcript_eq with ⟨before, hbefore⟩
  rw [hbefore] at hsucceed
  rw [hends.outcome_eq]
  rcases Store.ends_of_looking stamp c x (ensures_planFor o l.record.cluster l.record []) with
    ⟨hbears, hended⟩
  cases houtcome : x.outcome stamp c (planFor o l.record.cluster l.record) with
  | ok p =>
      rw [houtcome] at hended
      rcases hended with ⟨window, _, _, _, hwindow, _, _, _, rfl⟩
      exact Or.inl ⟨_, rfl, BackupRecord.window_eq_ok_iff.mp hwindow, rfl⟩
  | error e =>
      rw [houtcome] at hended
      have hwindow := hl.window_of_hindered hbears hsucceed.append_right hended
      refine Or.inr ⟨⟨e, rfl⟩, ?_⟩
      cases hnone : l.record.window? with
      | none => rfl
      | some window =>
          rw [BackupRecord.window_eq_ok_iff.mpr hnone] at hwindow
          cases hwindow

end

/-- The last part is where a listing says more than any plan does. -/
theorem listing_shows_what_can_be_planned (hl : Considered o x stamp c l) :
    (l.window.isSome = true ↔ ∃ p, x.outcome stamp c (plan o) = Except.ok p) ∧
      (∀ p, x.outcome stamp c (plan o) = Except.ok p →
        l.window = some p.window ∧ l.pointInTime = p.pointInTime) ∧
      (l.pointInTime = true ↔
        (∃ p, x.outcome stamp c (plan o) = Except.ok p ∧ p.pointInTime = true) ∨
          l.record.isEligible = false ∧ l.record.pointInTimeWindow?.isSome = true) := by
  have hwindow : l.window = if l.record.isEligible then l.record.window? else none :=
    congrArg BackupListing.window hl.ofRecord_eq.symm
  have hanytime : l.pointInTime = l.record.pointInTimeWindow?.isSome :=
    congrArg BackupListing.pointInTime hl.ofRecord_eq.symm
  rw [hwindow, hanytime]
  cases heligible : l.record.isEligible with
  | false =>
      rcases hl.refused heligible with ⟨e, he⟩
      simp [he]
  | true =>
      rcases hl.outcome_plan heligible with ⟨p, hp, hshown, hoffered⟩ | ⟨⟨e, he⟩, hnone⟩
      · simp [hp, hshown, hoffered]
      · have hnever : l.record.pointInTimeWindow? = none :=
          (Option.or_eq_none_iff.mp hnone).1
        simp [he, hnone, hnever]

/-!
### A backup in a state
-/

/-- The archive of the example, with its backup in a state of its own. -/
def exampleArchiveIn (state : String) : Store :=
  { exampleArchive with
    backups :=
      [.obj
        [("metadata", .obj [("name", .str "b1"), ("namespace", .str "prod")]),
          ("spec", .obj [("pxcCluster", .str "c1"), ("storageName", .str "s3")]),
          ("status", .obj
            [("state", .str state), ("completed", .str "2025-01-01T00:00:00Z"),
              ("destination", .str "s3://b/b1"),
              ("latestRestorableTime", .str "2025-01-02T00:00:00Z")])]] }

def exampleNamed : RestoreOptions :=
  { exampleOptions "staging" with backupName := some "b1" }

/-- The only backup of the archive is as the example has it. -/
theorem exists_considered (state : String)
    (hlength : (listing (exampleArchiveIn state) exampleStamp {} "prod").length = 1)
    (hshown : ∀ l ∈ listing (exampleArchiveIn state) exampleStamp {} "prod",
      l.record.name = "b1" ∧ l.record.cluster = "c1" ∧ l.record.storageName = some "s3" ∧
        l.record.hasDestination = true ∧ l.pointInTime = true)
    (hcluster : (((exampleArchiveIn state).perform (.getCluster "prod" "c1")).1.toOption.any
      fun found => (found : Option Cluster).any (·.name == "c1")) = true)
    (hlooks : AllSucceed
      ((exampleArchiveIn state).transcript exampleStamp {} (plan exampleNamed))) :
    ∃ l, Considered exampleNamed (exampleArchiveIn state) exampleStamp {} l ∧
      l.pointInTime = true := by
  rcases List.length_eq_one_iff.mp hlength with ⟨l, hl⟩
  have hmem : l ∈ listing (exampleArchiveIn state) exampleStamp {} "prod" := by
    rw [hl]
    exact List.mem_singleton_self l
  rcases hshown l hmem with ⟨hname, hsource, hstorage, hdestination, hanytime⟩
  rcases exists_ok_of_any hcluster with ⟨found, hread, hfound⟩
  have hcluster : ∃ cluster, found = some cluster ∧ cluster.name = "c1" := by
    cases found with
    | none => cases hfound
    | some cluster => exact ⟨cluster, rfl, eq_of_beq hfound⟩
  rcases hcluster with ⟨cluster, rfl, hcalled⟩
  refine ⟨l, ?_, hanytime⟩
  constructor
  · exact hmem
  · intro l' hl' _
    have hl' : l' ∈ listing (exampleArchiveIn state) exampleStamp {} "prod" := hl'
    rw [hl] at hl'
    exact List.mem_singleton.mp hl'
  · rw [hname]
    rfl
  · exact Or.inl rfl
  · exact ⟨"c2", rfl, by decide⟩
  · exact ⟨"s3", hstorage⟩
  · exact hdestination
  · rw [hsource]
    exact ⟨cluster, hcalled, hread⟩
  · exact hlooks

/-- A restore from a backup that succeeded is planned with the window that was shown. -/
theorem succeeded_backup_shown :
    ∃ l p, (exampleArchiveIn "Succeeded").outcome exampleStamp {} (plan exampleNamed) =
        Except.ok p ∧
      l.window = some p.window ∧ l.pointInTime = p.pointInTime ∧
      Considered exampleNamed (exampleArchiveIn "Succeeded") exampleStamp {} l := by
  rcases exists_considered "Succeeded" (by decide +kernel) (by decide +kernel)
    (by decide +kernel) (by decide +kernel) with ⟨l, hl, _⟩
  rcases listing_shows_what_can_be_planned hl with ⟨hplanned, hsame, _⟩
  have hp : ((exampleArchiveIn "Succeeded").outcome exampleStamp {}
      (plan exampleNamed)).toOption.any (fun _ => true) = true := by
    decide +kernel
  rcases exists_ok_of_any hp with ⟨p, hp, _⟩
  rcases hsame p hp with ⟨hwindow, hanytime⟩
  exact ⟨l, p, hp, hwindow, hanytime, hl⟩

/-- A backup that failed after its completion was noted is shown with recovery to any instant. -/
theorem failed_backup_offered :
    ¬ ∀ (o : RestoreOptions) (x : Store) (stamp : Stamp) (c : Clock) (l : BackupListing),
      Considered o x stamp c l →
      (l.pointInTime = true ↔
        ∃ p, x.outcome stamp c (plan o) = Except.ok p ∧ p.pointInTime = true) := by
  intro hall
  rcases exists_considered "Failed" (by decide +kernel) (by decide +kernel)
    (by decide +kernel) (by decide +kernel) with ⟨l, hl, hanytime⟩
  rcases (hall _ _ _ _ _ hl).mp hanytime with ⟨p, hp, _⟩
  have hrefused : ((exampleArchiveIn "Failed").outcome exampleStamp {}
      (plan exampleNamed)).toOption.isNone = true := by
    decide +kernel
  rw [hp] at hrefused
  cases hrefused

end Workflow
end PointInTime
