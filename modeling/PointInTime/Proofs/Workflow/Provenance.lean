import PointInTime.Proofs.Restore.Job
import PointInTime.Proofs.Server.Backups
import PointInTime.Proofs.Workflow.Credentials
import PointInTime.Proofs.Workflow.Refusal

/-!
# Where a restore comes from

The source and the backup of a restore are chosen in one of several ways, and what was chosen goes
through the plan and the clone into the job.

Main statement: if a restore is submitted, however many of its requests failed, then the job reads
the backup that is reported, that backup is of the cluster that was cloned, and the instant lies in
its window.
-/

namespace PointInTime

open Operation

/-!
## What creating does
-/

namespace Store

/-- The same clusters, jobs and backups, whatever happened to namespaces and secrets. -/
structure SameObjects (s s' : Store) : Prop where
  clusters : s'.clusters = s.clusters
  restores : s'.restores = s.restores
  backups : s'.backups = s.backups

theorem sameObjects_refl (s : Store) : s.SameObjects s :=
  ⟨rfl, rfl, rfl⟩

theorem SameObjects.trans {s s' s'' : Store} (h : s.SameObjects s') (h' : s'.SameObjects s'') :
    s.SameObjects s'' :=
  ⟨h'.clusters.trans h.clusters, h'.restores.trans h.restores, h'.backups.trans h.backups⟩

theorem sameObjects_perform_createSecret (s : Store) (scope : String) (secret : Secret) :
    s.SameObjects (s.perform (.createSecret scope secret)).2 := by
  simp only [perform]
  split <;> exact ⟨rfl, rfl, rfl⟩

theorem sameObjects_perform_createNamespace (s : Store) (name : String) :
    s.SameObjects (s.perform (.createNamespace name)).2 := by
  simp only [perform]
  split <;> exact ⟨rfl, rfl, rfl⟩

/-- Whether the logs of a cluster are archived, as far as the clusters can be listed. -/
def archivesLogs (s : Store) (scope name : String) : Bool :=
  Catalog.archivesLogs ((s.perform (.listClusters scope)).1.toOption.getD []) name

end Store

/-!
## The parts of a restore
-/

theorem Clone.Copies.sameObjects {req : Clone.Request} {h : History Server} {s s' : Store}
    {d : Demand} {x : d.Answer} (hd : Clone.Copies req h d)
    (ha : Store.UnreliableAnswers s d x s') : s.SameObjects s' := by
  have hlook {r : PointInTime.Request} {v : Except Error r.Value} (hr : r.isLook = true)
      (ha : Store.UnreliableAnswers s (.server r) v s') : s.SameObjects s' := by
    rw [(Store.answersLooks_unreliable (fun _ _ => False) s r v s' hr ha).1]
    exact s.sameObjects_refl
  cases d with
  | stamp => exact absurd hd id
  | server r =>
      cases r with
      | createSecret scope secret =>
          rcases ha.eq_or_eq with rfl | rfl
          · exact s.sameObjects_perform_createSecret scope secret
          · exact s'.sameObjects_refl
      | _ => exact hlook hd ha

theorem Clone.achieves_run (req : Clone.Request) (s : Store) :
    Achieves s (Clone.run req) fun s' _ => ∃ source : Cluster,
      (s.perform (.getCluster req.sourceScope req.sourceCluster)).1 = Except.ok (some source) ∧
        Store.find? req.targetScope req.targetCluster s.clusters = none ∧
        s'.clusters =
          s.clusters ++ [(source.cloneFor req.targetScope req.targetCluster).toJson] ∧
        s'.restores = s.restores ∧ s'.backups = s.backups := by
  unfold run source
  apply achieves_bind
  apply achieves_bind
  apply achieves_look rfl
  intro found hfound
  apply achieves_orMissing
  rintro cluster rfl
  have horigin := Store.Tells.getCluster hfound
  apply achieves_bind
  apply achieves_look rfl
  intro existing _
  cases existing with
  | some taken => trivial
  | none =>
      show Achieves s (List.foldlM _ _ _ >>= fun _ => _) _
      apply achieves_bind
      refine (achieves_of_kept (ensures_copyCredentials req _ _ [])
        (fun _ _ _ _ _ hd ha hs => hs.trans (hd.sameObjects ha)) s.sameObjects_refl).mono ?_
      intro s₁ report hsame
      apply achieves_bind
      apply achieves_deed rfl
      intro v hv
      obtain ⟨hfree, hcreated⟩ := Store.eq_of_createCluster hv
      rw [Store.placeOf_cloneFor, hsame.clusters] at hfree
      rw [hcreated]
      refine ⟨cluster, horigin, hfree, ?_, hsame.restores, hsame.backups⟩
      show s₁.clusters ++ _ = _
      rw [hsame.clusters]

theorem Job.achieves_submit (scope cluster : String) (backup : BackupRecord) (instant : Instant)
    (storageName : String) (s : Store) :
    Achieves s (Job.submit scope cluster backup instant storageName) fun s' name =>
      ∃ job, Job.build name scope cluster backup instant storageName = Except.ok job ∧
        s' = { s with restores := s.restores ++ [job.toJson] } := by
  unfold submit
  apply achieves_bind
  apply achieves_newStamp
  intro stamp
  apply achieves_bind
  apply achieves_of
  intro job hjob
  apply achieves_bind
  apply achieves_deed rfl
  intro v hv
  exact ⟨job, hjob, (Store.eq_of_createRestore hv).2⟩

namespace Workflow

theorem achieves_createNamespace (scope : String) (s : Store) :
    Achieves s (createNamespace scope) fun s' _ => s.SameObjects s' := by
  unfold createNamespace
  apply achieves_bind
  apply achieves_of
  intro _ _
  apply achieves_deed rfl
  intro _ _
  exact s.sameObjects_perform_createNamespace scope

/-- What carrying out a plan leaves behind. -/
structure Leaves (p : Plan) (s s' : Store) (done : Submission) (source : Cluster)
    (job : Restore) : Prop where
  submission : done.cluster = p.targetCluster ∧ done.scope = p.targetScope ∧
    done.backup = p.backup.name ∧ done.instant = p.instant
  origin : (s.perform (.getCluster p.sourceScope p.sourceCluster)).1 = Except.ok (some source)
  free : Store.find? p.targetScope p.targetCluster s.clusters = none
  built : Job.build done.job p.targetScope p.targetCluster p.backup p.instant p.storageName =
    Except.ok job
  clusters : s'.clusters = s.clusters ++ [(source.cloneFor p.targetScope p.targetCluster).toJson]
  restores : s'.restores = s.restores ++ [job.toJson]
  backups : s'.backups = s.backups

theorem achieves_cloneAndSubmit (p : Plan) (s : Store) :
    Achieves s (cloneAndSubmit p) fun s' done => ∃ source job, Leaves p s s' done source job := by
  unfold cloneAndSubmit
  apply achieves_bind
  refine (Clone.achieves_run p.cloneRequest s).mono ?_
  rintro s₁ clone ⟨source, hsource, hfree, hclusters, hrestores, hbackups⟩
  apply achieves_bind
  refine (Job.achieves_submit _ _ _ _ _ s₁).mono ?_
  rintro _ name ⟨job, hjob, rfl⟩
  refine ⟨source, job, ⟨rfl, rfl, rfl, rfl⟩, hsource, hfree, hjob, hclusters, ?_, hbackups⟩
  show s₁.restores ++ _ = _
  rw [hrestores]

theorem achieves_carryOut (p : Plan) (s : Store) :
    Achieves s (carryOut p) fun s' done => ∃ source job, Leaves p s s' done source job := by
  rw [carryOut_eq]
  split
  · apply achieves_bind
    refine (achieves_createNamespace p.targetScope s).mono ?_
    rintro s₁ _ hsame
    refine (achieves_cloneAndSubmit p s₁).mono ?_
    rintro s' done ⟨source, job, hleaves⟩
    have horigin : Store.readOne Cluster.ofJson?
        (Store.find? p.sourceScope p.sourceCluster s₁.clusters) = Except.ok (some source) :=
      hleaves.origin
    rw [hsame.clusters] at horigin
    exact ⟨source, job, hleaves.submission, horigin, hsame.clusters ▸ hleaves.free,
      hleaves.built, hsame.clusters ▸ hleaves.clusters, hsame.restores ▸ hleaves.restores,
      hleaves.backups.trans hsame.backups⟩
  · exact achieves_cloneAndSubmit p s

/-- A plan that nothing blocks, carried out on the objects that it was made from. -/
theorem achieves_execute (o : RestoreOptions) (s : Store) :
    Achieves s (execute o) fun s' done => ∃ p source job h,
      (∀ r v, Heard h r v → s.Tells r v) ∧ Sourced o h p ∧ p.instant ∈ p.window ∧
        Leaves p s s' done source job := by
  unfold execute
  apply achieves_bind
  refine (achieves_of_looking (ensures_plan_sourced o [])).mono ?_
  rintro _ p ⟨rfl, h, htold, hsourced⟩
  cases hfirst : p.firstError? with
  | some e => trivial
  | none =>
      have hclear : IsClear p o.createNamespace := by
        rw [← hsourced.surveyed.blockers_eq_nil]
        simpa [Plan.firstError?] using hfirst
      refine (achieves_carryOut p _).mono ?_
      rintro s' done ⟨source, job, hleaves⟩
      exact ⟨p, source, job, h, htold, hsourced, hclear.inWindow, hleaves⟩

/-!
## Provenance
-/

/-- A submission, the backup and the cluster that it came from, and the job that it left. -/
structure Provenance (o : RestoreOptions) (s s' : Store) (done : Submission) (b : Backup)
    (source : Cluster) (job : Restore) : Prop where
  held : s.HoldsBackup o.sourceScope b ∧ s'.backups = s.backups
  reported : b.metadata.name = done.backup
  succeeded : b.state = .succeeded
  origin : (s.perform (.getCluster o.sourceScope b.spec.cluster)).1 = Except.ok (some source)
  target : done.scope = o.target
  cloned : Store.find? done.scope done.cluster s.clusters = none ∧
    s'.clusters = s.clusters ++ [(source.cloneFor done.scope done.cluster).toJson]
  submitted : s'.restores = s.restores ++ [job.toJson]
  placed : job.metadata.name = done.job ∧ job.metadata.scope = done.scope
  fills : job.spec.cluster = done.cluster
  reads : ∃ destination storage, (b.status.getD {}).destination = some destination ∧
    b.storageName = some storage ∧ job.spec.backupSource = some ⟨some destination, some storage⟩
  marked : job.metadata.annotations.find? Mark.sourceBackup = some done.backup
  inWindow : ∃ w, (BackupRecord.ofBackup b (s.archivesLogs o.sourceScope b.spec.cluster)).window? =
    some w ∧ done.instant ∈ w

/-- Clusters that could not be listed make a window smaller at most. -/
theorem mem_window?_of_heard {x : Store} {h : History Server} {scope : String}
    {clusters : List Cluster} {b : Backup} {w : RecoveryWindow} {t : Instant}
    (htold : ∀ r v, Heard h r v → x.Tells r v)
    (hclusters : clusters = [] ∨ Heard h (.listClusters scope) clusters)
    (hw : (BackupRecord.ofBackup b (Catalog.archivesLogs clusters b.spec.cluster)).window? = some w)
    (ht : t ∈ w) :
    ∃ w', (BackupRecord.ofBackup b (x.archivesLogs scope b.spec.cluster)).window? = some w' ∧
      t ∈ w' := by
  rcases hclusters with rfl | hheard
  · exact BackupRecord.mem_window?_with_logs hw ht _
  · have hsame : x.archivesLogs scope b.spec.cluster =
        Catalog.archivesLogs clusters b.spec.cluster := by
      unfold Store.archivesLogs
      rw [(htold _ _ hheard).listClusters]
      rfl
    exact ⟨w, by rw [hsame, hw], ht⟩

theorem provenance_of_submission {o : RestoreOptions} {x x' : Store} {log : History Server}
    {done : Submission}
    (pass : Procedure.Passes (Store.unreliable fun _ _ => False) x (execute o).run log x'
      (.done (Except.ok done))) :
    ∃ b source job, Provenance o x x' done b source job := by
  obtain ⟨p, source, job, h, htold, ⟨name, record, hoffered, hdrafted⟩, hinstant, hleaves⟩ :=
    (achieves_execute o x).holds pass
  obtain ⟨backups, clusters, b, hbackups, hclusters, hb, rfl⟩ := hoffered.listed
  obtain ⟨window, storageName, doesExist, clone, hwindow, hstorage, _, _, rfl⟩ := hdrafted
  obtain ⟨hcluster, hscope, hbackup, hdone⟩ := hleaves.submission
  obtain ⟨hname, hplace, _, destination, hdestination, hreads⟩ := Job.build_eq_ok hleaves.built
  have hsource : b.spec.cluster = name := hoffered.ofSource
  refine ⟨b, source, job, ?_⟩
  constructor
  · exact ⟨(Store.mem_listed_iff (htold _ _ hbackups).listBackups).mp hb, hleaves.backups⟩
  · exact hbackup.symm
  · exact eq_of_beq hoffered.eligible
  · rw [hsource]
    exact hleaves.origin
  · exact hscope
  · rw [hscope, hcluster]
    exact ⟨hleaves.free, hleaves.clusters⟩
  · exact hleaves.restores
  · exact ⟨hname, hplace.trans hscope.symm⟩
  · exact (Job.cluster_of_build hleaves.built).trans hcluster.symm
  · exact ⟨destination, storageName, (Option.filter_eq_some_iff.mp hdestination).1,
      (readSource_eq_ok hstorage).1, hreads⟩
  · rw [hbackup]
    exact Job.mark_of_build hleaves.built
  · rw [hdone]
    exact mem_window?_of_heard htold hclusters (BackupRecord.window_eq_ok_iff.mp hwindow) hinstant

theorem provenance_of_restore_to_staging :
    ∃ log x' done b source job,
      Procedure.Passes (Store.unreliable fun _ _ => False) exampleStore
        (execute (exampleOptions "staging")).run log x' (.done (Except.ok done)) ∧
      done.backup = "b1" ∧
      Provenance (exampleOptions "staging") exampleStore x' done b source job := by
  have pass := Procedure.passes_run
    (fun d s => ⟨s, Or.inl rfl, Store.unreliable_serving (fun _ _ => False) exampleStamp d s⟩)
    (execute (exampleOptions "staging")).run {} exampleStore
  obtain ⟨done, hdone, hbackup⟩ : ∃ done, (Procedure.run (Store.serving id exampleStamp)
      (execute (exampleOptions "staging")).run {} exampleStore).1 = Except.ok done ∧
        (done.backup == "b1") = true := by
    apply exists_ok_of_any
    decide +kernel
  rw [hdone] at pass
  obtain ⟨b, source, job, hprovenance⟩ := provenance_of_submission pass
  exact ⟨_, _, done, b, source, job, pass, eq_of_beq hbackup, hprovenance⟩

end Workflow
end PointInTime
