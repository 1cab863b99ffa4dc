import Mathlib.Data.List.Induction
import PointInTime.Proofs.Workflow.Choice
import PointInTime.Proofs.Workflow.Provenance

/-!
# The instant of a plan that asks for none

A caller that names no instant wants as little as possible to be lost: the latest instant that the
backup can be restored to, as far as the logs of its cluster are archived.

Main statement: however many of its looks fail, a plan is either not made or has that instant, with
one exception.  Clusters that cannot be listed count as clusters that archive nothing, and then the
plan has the instant at which the backup was completed.
-/

namespace PointInTime

/-!
## What the stored objects give
-/

/-- The latest instant that a backup can be restored to: the logs prolong it, if they are archived
and do not end before it was completed. -/
def Backup.latestInstant? (b : Backup) (archives : Bool) : Option Instant :=
  (b.status.getD {}).completed.map fun completion =>
    match (b.status.getD {}).latestRestorableTime with
    | some latest => if archives = true ∧ completion ≤ latest then latest else completion
    | none => completion

namespace Store

/-- The stored cluster that goes by a name in a namespace, the last one of several. -/
def owner? (s : Store) (scope name : String) : Option Cluster :=
  (((inScope scope s.clusters).filterMap Cluster.ofJson?).filter (·.name = name)).getLast?

/-- Whether the logs of the backups of a cluster are archived. -/
def Archives (s : Store) (scope name : String) : Bool :=
  (s.owner? scope name).any (·.archivesLogs)

end Store

/-!
## Windows and listings
-/

theorem BackupRecord.latestInstant?_eq (b : Backup) (archives : Bool) :
    b.latestInstant? archives = (ofBackup b archives).window?.map (·.latest) := by
  unfold Backup.latestInstant? window? pointInTimeWindow?
  simp only [ofBackup]
  cases (b.status.getD {}).completed with
  | none => cases archives <;> rfl
  | some completion =>
      cases (b.status.getD {}).latestRestorableTime with
      | none => cases archives <;> rfl
      | some latest =>
          by_cases hle : completion ≤ latest
          · cases archives <;> simp [RecoveryWindow.of?, RecoveryWindow.point, hle]
          · cases archives <;> simp [RecoveryWindow.of?, RecoveryWindow.point, hle]

/-- By induction from the end: the last cluster of a name has the last word. -/
theorem Catalog.archivesLogs_eq (clusters : List Cluster) (name : String) :
    archivesLogs clusters name =
      ((clusters.filter (·.name = name)).getLast?).any (·.archivesLogs) := by
  induction clusters using List.reverseRecOn with
  | nil => rfl
  | append_singleton clusters c ih =>
      rw [archivesLogs_concat, List.filter_append]
      by_cases hc : c.name = name
      · simp [hc]
      · simp [hc, ih]

theorem Store.archivesLogs_of_listed {s : Store} {scope : String} {clusters : List Cluster}
    (h : (s.perform (.listClusters scope)).1 = Except.ok clusters) (name : String) :
    Catalog.archivesLogs clusters name = s.Archives scope name := by
  have hlist : (readList (inScope scope s.clusters)).map (fun list => list.map Cluster.mk) =
      Except.ok clusters := h
  cases hread : readList (inScope scope s.clusters) with
  | error e =>
      rw [hread] at hlist
      cases hlist
  | ok list =>
      rw [hread] at hlist
      cases hlist
      have hread? : (fun j => (Object.ofJson? j).bind fun o => some (Cluster.mk o)) =
          Cluster.ofJson? :=
        funext fun j => Option.map_eq_bind.symm
      have hclusters := (filterMap_of_readList (fun o => some (Cluster.mk o)) hread).2
      rw [List.filterMap_eq_map', hread?] at hclusters
      show Catalog.archivesLogs (list.map Cluster.mk) name = _
      rw [Catalog.archivesLogs_eq, hclusters]
      rfl

namespace Workflow

/-!
## The instant
-/

theorem instant_of_unrequested {o : RestoreOptions} {x x' : Store} {log : History Server}
    {p : Plan} (hunrequested : o.instant = none)
    (pass : Procedure.Passes (Store.unreliable fun _ _ => False) x (plan o).run log x'
      (.done (Except.ok p))) :
    ∃ (b : Backup) (archives : Bool),
      x.HoldsBackup o.sourceScope b ∧ b.state = .succeeded ∧ p.backup = .ofBackup b archives ∧
        b.latestInstant? archives = some p.instant ∧
        (archives = x.Archives o.sourceScope b.spec.cluster ∨
          archives = false ∧
            ∃ e, (⟨.server (.listClusters o.sourceScope), Except.error e⟩ : Exchange Server) ∈
              log) := by
  have hensured := ensuresIn_of_looking (Store.answersLooks_unreliable fun _ _ => False)
    (ensures_plan_chosen o []) (s := x) (fun _ _ hheard => nomatch hheard)
  rcases pass.ends (fun _ _ => id) hensured with ⟨-, htold, source, r, hchosen, hdrafted⟩
  rcases hchosen.read with ⟨backups, outcome, b, hbackups, houtcome, hb, rfl⟩
  have hweighs := hdrafted.weighs
  refine ⟨b, _, (Store.mem_listed_iff (htold _ _ hbackups).listBackups).mp hb,
    eq_of_beq hchosen.eligible, hweighs.backup, ?_, ?_⟩
  · rw [(hweighs.unrequested hunrequested).1]
    rw [BackupRecord.latestInstant?_eq, hweighs.window]
    rfl
  · cases outcome with
    | ok clusters =>
        exact Or.inl (Store.archivesLogs_of_listed (htold _ _ houtcome).listClusters _)
    | error e => exact Or.inr ⟨rfl, e, houtcome⟩

/-- The cluster of the example with its logs archived, and a backup that they prolong by a day. -/
def exampleArchive : Store :=
  { exampleStore with
    clusters :=
      [.obj
        [("metadata", .obj [("name", .str "c1"), ("namespace", .str "prod")]),
          ("spec", .obj
            [("backup", .obj
              [("pitr", .obj [("enabled", .bool true)]),
                ("storages", .obj [("s3", exampleProfile "s3" "aws")])])])]]
    backups :=
      [.obj
        [("metadata", .obj [("name", .str "b1"), ("namespace", .str "prod")]),
          ("spec", .obj [("pxcCluster", .str "c1"), ("storageName", .str "s3")]),
          ("status", .obj
            [("state", .str "Succeeded"), ("completed", .str "2025-01-01T00:00:00Z"),
              ("destination", .str "s3://b/b1"),
              ("latestRestorableTime", .str "2025-01-02T00:00:00Z")])]] }

/-- The source is named, so that the clusters are listed for the catalog only. -/
def exampleLatest : RestoreOptions :=
  { exampleOptions "staging" with sourceCluster := some "c1" }

theorem instant_of_archive :
    ∃ log x' p b archives,
      Procedure.Passes (Store.unreliable fun _ _ => False) exampleArchive (plan exampleLatest).run
        log x' (.done (Except.ok p)) ∧
      p.instant.format = "2025-01-02 00:00:00" ∧ p.backup = .ofBackup b archives ∧
      b.latestInstant? archives = some p.instant := by
  have pass := Procedure.passes_run
    (fun d s => ⟨s, Or.inl rfl, Store.unreliable_serving (fun _ _ => False) exampleStamp d s⟩)
    (plan exampleLatest).run {} exampleArchive
  obtain ⟨p, hp, hinstant⟩ : ∃ p, (Procedure.run (Store.serving id exampleStamp)
      (plan exampleLatest).run {} exampleArchive).1 = Except.ok p ∧
        (p.instant.format == "2025-01-02 00:00:00") = true := by
    apply exists_ok_of_any
    decide +kernel
  rw [hp] at pass
  rcases instant_of_unrequested rfl pass with ⟨b, archives, -, -, hbackup, hlatest, -⟩
  exact ⟨_, _, p, b, archives, pass, eq_of_beq hinstant, hbackup, hlatest⟩

/-- A server on which clusters cannot be listed. -/
def withoutLists (stamp : Stamp) : (d : Demand) → Store → d.Answer × Store
  | .server (.listClusters _), s => (Except.error (.externalFailure "not now"), s)
  | d, s => Store.serving id stamp d s

theorem unreliable_withoutLists (others : Store → Store → Prop) (stamp : Stamp) (d : Demand)
    (s : Store) :
    (Store.unreliable others).answers s d (withoutLists stamp d s).1
      (withoutLists stamp d s).2 := by
  cases d with
  | stamp => exact Store.unreliable_serving others stamp .stamp s
  | server r =>
      cases r with
      | listClusters scope => exact .lossy (.answered (.failed _ _))
      | _ => exact Store.unreliable_serving others stamp _ s

/-- The clusters cannot be listed, the source can be read, and a day of logs is left out. -/
theorem completion_without_lists :
    ¬ ∀ (o : RestoreOptions) (x x' : Store) (log : History Server) (p : Plan),
      o.instant = none →
      Procedure.Passes (Store.unreliable fun _ _ => False) x (plan o).run log x'
        (.done (Except.ok p)) →
      p.blockers = [] →
      ∃ b, x.HoldsBackup o.sourceScope b ∧ b.metadata.name = p.backup.name ∧
        b.latestInstant? (x.Archives o.sourceScope b.spec.cluster) = some p.instant := by
  intro hall
  have pass := Procedure.passes_run
    (fun d s => ⟨s, Or.inl rfl, unreliable_withoutLists (fun _ _ => False) exampleStamp d s⟩)
    (plan exampleLatest).run {} exampleArchive
  obtain ⟨p, hp, hplan⟩ : ∃ p, (Procedure.run (withoutLists exampleStamp)
      (plan exampleLatest).run {} exampleArchive).1 = Except.ok p ∧
        (p.blockers == [] && p.instant.format == "2025-01-01 00:00:00") = true := by
    apply exists_ok_of_any
    decide +kernel
  rw [hp] at pass
  rw [Bool.and_eq_true, beq_iff_eq, beq_iff_eq] at hplan
  rcases hall exampleLatest _ _ _ p rfl pass hplan.1 with ⟨b, ⟨j, hj, hb⟩, -, hlatest⟩
  have hlatest : b.latestInstant? (exampleArchive.Archives "prod" b.spec.cluster) =
    some p.instant := hlatest
  have hstored : ∀ j ∈ Store.inScope "prod" exampleArchive.backups,
      ((Object.ofJson? j).bind Backup.ofObject?).all fun b =>
        (b.latestInstant? (exampleArchive.Archives "prod" b.spec.cluster)).all
          (·.format == "2025-01-02 00:00:00") := by
    decide +kernel
  have hday := hstored j hj
  rw [hb, Option.all_some, hlatest, Option.all_some, beq_iff_eq, hplan.2] at hday
  exact absurd hday (by decide)

end Workflow
end PointInTime
