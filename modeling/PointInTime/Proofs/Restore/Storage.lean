import PointInTime.Proofs.Catalog.Bounds
import PointInTime.Proofs.Catalog.Newest
import PointInTime.Proofs.Resource.Backup
import PointInTime.Proofs.Standby.Runs
import PointInTime.Proofs.Workflow.Listing

/-!
# The storage that a backup is restored from

The storage of a backup is named in two places: the operator reports the one that was written to,
and whoever asked for the backup asked for one.  An empty name is no name.  A report comes first,
also one of an empty name, and so it hides the storage that was asked for.

Main statement: the storage that a backup names is found, and plans and cycles go on with it, unless
the report hides it; then none is found, and every plan for the backup and every cycle that has come
to it ends in a refusal.
-/

namespace PointInTime

/-!
## Names of the storage
-/

namespace Backup

/-- The storage that is reported, if its name is not empty, and else the one that was asked for. -/
inductive NamesStorage (b : Backup) (storage : String) : Prop where
  | reported : b.status.bind (·.storageName) = some storage → storage ≠ "" → NamesStorage b storage
  | requested : (∀ name, b.status.bind (·.storageName) = some name → name = "") →
      b.spec.storageName = some storage → storage ≠ "" → NamesStorage b storage

/-- An empty name is reported, though another one was asked for. -/
structure HidesStorage (b : Backup) : Prop where
  reported : b.status.bind (·.storageName) = some ""
  requested : ∃ storage, b.spec.storageName = some storage ∧ storage ≠ ""

variable {b : Backup} {storage : String}

theorem HidesStorage.storageName_eq (h : b.HidesStorage) : b.storageName = none := by
  unfold storageName
  rw [h.reported]
  rfl

theorem NamesStorage.storageName_eq (h : b.NamesStorage storage) (hshown : ¬ b.HidesStorage) :
    b.storageName = some storage := by
  unfold storageName
  cases h with
  | reported hreported hne =>
      rw [hreported, Option.some_or, Option.filter_some, if_pos (by simpa using hne)]
  | requested hempty hrequested hne =>
      cases hreported : b.status.bind (·.storageName) with
      | none =>
          rw [Option.none_or, hrequested, Option.filter_some, if_pos (by simpa using hne)]
      | some name =>
          cases hempty name hreported
          exact absurd ⟨hreported, storage, hrequested, hne⟩ hshown

theorem NamesStorage.storageName_eq_some_iff (h : b.NamesStorage storage) :
    b.storageName = some storage ↔ ¬ b.HidesStorage := by
  constructor
  · intro hfound hhidden
    rw [hhidden.storageName_eq] at hfound
    cases hfound
  · exact h.storageName_eq

theorem NamesStorage.storageName_eq_none_iff (h : b.NamesStorage storage) :
    b.storageName = none ↔ b.HidesStorage := by
  constructor
  · intro hnone
    by_contra hshown
    rw [h.storageName_eq hshown] at hnone
    cases hnone
  · exact HidesStorage.storageName_eq

end Backup

/-!
## Operations in two parts
-/

/-- Whatever is answered, an operation whose first part has returned a value goes on as another
one. -/
structure Operation.Continues {α β : Type} (x : Operation α) (first : Operation β) (b : β)
    (rest : Operation α) : Prop where
  run_eq : ∀ {σ : Type} (answer : (d : Demand) → σ → d.Answer × σ) (c c' : Clock) (t t' : σ),
    Procedure.run answer first.run c t = (Except.ok b, c', t') →
      Procedure.run answer x.run c t = Procedure.run answer rest.run c' t'
  exchanges_eq : ∀ {σ : Type} (answer : (d : Demand) → σ → d.Answer × σ) (c c' : Clock) (t t' : σ),
    Procedure.run answer first.run c t = (Except.ok b, c', t') →
      Procedure.exchanges answer x.run c t =
        Procedure.exchanges answer first.run c t ++ Procedure.exchanges answer rest.run c' t'

theorem Operation.continues_bind {α β : Type} (first : Operation β) (f : β → Operation α) (b : β) :
    Continues (first >>= f) first b (f b) where
  run_eq answer c c' t t' hfirst := by
    rw [ExceptT.run_bind, Procedure.bind_eq_bind, Procedure.run_bind, hfirst]
  exchanges_eq answer c c' t t' hfirst := by
    rw [ExceptT.run_bind, Procedure.bind_eq_bind, Procedure.exchanges_bind, hfirst]

namespace Workflow

variable {o : RestoreOptions} {source storage : String} {backup : BackupRecord}
variable {window : RecoveryWindow}

/-- What planning decides first: the source and the backup. -/
def selection (o : RestoreOptions) : Operation (String × BackupRecord) := do
  let named ← namedBackup o
  let cluster ← resolveCluster o.sourceScope (o.sourceCluster.or (named.map (·.cluster)))
  let backup ← selectBackup o cluster.name named
  return (cluster.name, backup)

theorem plan_eq_selection (o : RestoreOptions) :
    plan o = selection o >>= fun chosen => planFor o chosen.1 chosen.2 := by
  simp only [plan_eq, selection, bind_assoc, pure_bind]

/-- What is left of planning once it is known where the backup is restored from. -/
def planFrom (o : RestoreOptions) (source : String) (backup : BackupRecord)
    (window : RecoveryWindow) (storage : String) : Operation Plan := do
  let instant := o.instant.getD window.latest
  let target := targetName o source instant
  Operation.of (Name.check target Name.clusterLimit)
  let namespaceExists ← Operation.namespaceExists o.target
  let clone ← Clone.plan ⟨o.sourceScope, source, o.target, target, some storage⟩
  return assemble o source backup window instant storage namespaceExists clone

theorem planFor_eq (hwindow : backup.window = Except.ok window) :
    planFor o source backup =
      Operation.of (readSource backup) >>= planFrom o source backup window := by
  unfold planFor
  rw [hwindow]
  rfl

end Workflow

namespace Standby

variable {s : Settings}

/-- A backup that a cycle has set out to restore. -/
structure Task where
  backup : BackupRecord
  completedAt : Instant
  identity : TrackingRecord

/-- What a cycle finds for the newest backup: that nothing is to be done, or a task. -/
def outlookOn (s : Settings) (newest : BackupRecord) : Operation (Outcome ⊕ Task) :=
  match newest.completedAt, TrackingRecord.ofRecord? newest with
  | some completedAt, some identity => do
      match ← TrackingRecord.load s.targetScope s.targetCluster with
      | some last =>
          if last.identifies newest then return .inl (.upToDate newest.name)
          else return .inr ⟨newest, completedAt, identity⟩
      | none => return .inr ⟨newest, completedAt, identity⟩
  | _, _ => return .inl (.incompleteBackup newest.name)

/-- What a cycle finds by looking. -/
def outlook (s : Settings) : Operation (Outcome ⊕ Task) := do
  let count ← Job.countInFlight s.targetScope
  if 0 < count then return .inl (.inFlight count)
  match ← (Catalog.newest s.sourceScope s.sourceCluster : Procedure Server _) with
  | none => return .inl .noBackup
  | some newest => outlookOn s newest

def carryOn (s : Settings) : Outcome ⊕ Task → Operation Outcome
  | .inl outcome => return outcome
  | .inr task => restore s task.backup task.completedAt task.identity

theorem catchUp_eq (s : Settings) (newest : BackupRecord) :
    catchUp s newest = outlookOn s newest >>= carryOn s := by
  unfold catchUp outlookOn
  cases newest.completedAt with
  | none => rfl
  | some completedAt =>
      cases TrackingRecord.ofRecord? newest with
      | none => rfl
      | some identity =>
          show TrackingRecord.load s.targetScope s.targetCluster >>= _ =
            (TrackingRecord.load s.targetScope s.targetCluster >>= _) >>= _
          rw [bind_assoc]
          congr 1
          funext last
          cases last with
          | none => rfl
          | some last =>
              by_cases hsame : last.identifies newest
              · simp only [hsame, if_true]
                rfl
              · simp only [hsame]
                rfl

theorem cycle_eq (s : Settings) : cycle s = outlook s >>= carryOn s := by
  unfold cycle outlook
  rw [bind_assoc]
  congr 1
  funext count
  by_cases hcount : 0 < count
  · simp only [hcount, if_true]
    rfl
  · simp only [hcount, if_false, bind_assoc]
    congr 1
    funext newest
    cases newest with
    | none => rfl
    | some newest => exact catchUp_eq s newest

/-- What is left of a restore once it is known where the backup is restored from. -/
def restoreFrom (s : Settings) (task : Task) (storage : String) : Operation Outcome := do
  let job ← Job.submit s.targetScope s.targetCluster task.backup task.completedAt storage
  match ← Job.await s.targetScope job s.pollInterval s.restoreTimeout with
  | .succeeded =>
      task.identity.save s.targetScope s.targetCluster
      return .restored task.backup.name job
  | .failed state comments =>
      return .restoreFailed task.backup.name job (failureReason state comments)
  | .timedOut _ => return .restoreTimedOut task.backup.name job
  | .cancelled => return .cancelled task.backup.name job

theorem restore_eq (s : Settings) (task : Task) :
    restore s task.backup task.completedAt task.identity =
      Operation.of (storageOf task.backup) >>= restoreFrom s task := rfl

end Standby

/-!
## What becomes of a record
-/

namespace BackupRecord

variable {r : BackupRecord} {storage : String} {window : RecoveryWindow}
variable {plans : RestoreOptions → String → Operation Workflow.Plan}
variable {cycles : Standby.Settings → Standby.Task → Operation Standby.Outcome}

/-- How planning goes on that has chosen a record, for a source, and how a cycle does that has set
out to restore it. -/
structure GoesOn (r : BackupRecord) (plans : RestoreOptions → String → Operation Workflow.Plan)
    (cycles : Standby.Settings → Standby.Task → Operation Standby.Outcome) : Prop where
  plans : ∀ o source, (Workflow.plan o).Continues (Workflow.selection o) (source, r)
    (plans o source)
  cycles : ∀ s task, task.backup = r →
    (Standby.cycle s).Continues (Standby.outlook s) (.inr task) (cycles s task)

theorem goesOn_of_eq (hplans : ∀ o source, Workflow.planFor o source r = plans o source)
    (hcycles : ∀ s task, task.backup = r →
      Operation.of (Standby.storageOf task.backup) >>= Standby.restoreFrom s task =
        cycles s task) : r.GoesOn plans cycles where
  plans := by
    intro o source
    rw [← hplans, Workflow.plan_eq_selection]
    exact Operation.continues_bind _ _ (source, r)
  cycles := by
    intro s task htask
    rw [← hcycles s task htask, ← Standby.restore_eq, Standby.cycle_eq]
    exact Operation.continues_bind _ _ _

theorem goesOn_of_storageName (hwindow : r.window = Except.ok window)
    (hstorage : r.storageName = some storage) (hdestination : r.hasDestination = true) :
    r.GoesOn (fun o source => Workflow.planFrom o source r window storage)
      fun s task => Standby.restoreFrom s task storage := by
  apply goesOn_of_eq
  · intro o source
    rw [Workflow.planFor_eq hwindow, Workflow.readSource, hstorage, hdestination]
    rfl
  · intro s task htask
    rw [Standby.storageOf, htask, hstorage]
    rfl

theorem goesOn_of_no_storage (hwindow : r.window = Except.ok window)
    (hstorage : r.storageName = none) :
    let refusal : Error := .validation ("backup " ++ r.name ++ " does not name its storage")
    r.GoesOn (fun _ _ => Operation.of (Except.error refusal))
      fun _ _ => Operation.of (Except.error refusal) := by
  apply goesOn_of_eq
  · intro o source
    rw [Workflow.planFor_eq hwindow, Workflow.readSource, hstorage]
    rfl
  · intro s task htask
    rw [Standby.storageOf, htask, hstorage]
    rfl

theorem hasDestination_ofBackup {b : Backup} {destination : String}
    (hdestination : (b.status.getD {}).destination = some destination) (hne : destination ≠ "")
    (archives : Bool) : (ofBackup b archives).hasDestination = true := by
  show ((b.status.getD {}).destination.filter _).isSome = true
  rw [hdestination, Option.filter_some, if_pos (by simpa using hne)]
  rfl

/-- What is found decides alike for plans and cycles, where the backup was completed and lies
somewhere. -/
theorem storage_found_unless_hidden {b : Backup} (hnamed : b.NamesStorage storage)
    (archives : Bool) :
    let r := ofBackup b archives
    let refusal : Error :=
      .validation ("backup " ++ b.metadata.name ++ " does not name its storage")
    (r.storageName = some storage ↔ ¬ b.HidesStorage) ∧
      (r.storageName = none ↔ b.HidesStorage) ∧
      ∀ completion destination, b.completed? = some completion →
        (b.status.getD {}).destination = some destination → destination ≠ "" →
        ∃ window, r.window = Except.ok window ∧
          (¬ b.HidesStorage →
            r.GoesOn (fun o source => Workflow.planFrom o source r window storage)
              fun s task => Standby.restoreFrom s task storage) ∧
          (b.HidesStorage →
            r.GoesOn (fun _ _ => Operation.of (Except.error refusal))
              fun _ _ => Operation.of (Except.error refusal)) := by
  intro r refusal
  have hrecord : r.storageName = b.storageName := rfl
  rw [hrecord]
  constructor
  · exact hnamed.storageName_eq_some_iff
  constructor
  · exact hnamed.storageName_eq_none_iff
  intro completion destination hcompleted hdestination hne
  have hcompletedAt : r.completedAt = some completion := hcompleted
  have hlocated : r.hasDestination = true := hasDestination_ofBackup hdestination hne archives
  rcases exists_window?_of_completedAt hcompletedAt with ⟨window, hwindow, _⟩
  have hwindow : r.window = Except.ok window := window_eq_ok_iff.mpr hwindow
  refine ⟨window, hwindow, ?_, ?_⟩
  · intro hshown
    exact goesOn_of_storageName hwindow (hnamed.storageName_eq hshown) hlocated
  · intro hhidden
    exact goesOn_of_no_storage hwindow hhidden.storageName_eq

/-!
### A storage that was asked for
-/

/-- A backup that s3 was asked for, with the storage that is reported for it. -/
def exampleReported (reported : Option String) : Backup where
  metadata := { name := "b1", scope := "prod" }
  spec := { cluster := "c1", storageName := some "s3" }
  status := some
    { state := some "Succeeded"
      completed := some midnight
      destination := some "s3://b/b1"
      storageName := reported }

/-- A server that holds this backup and its cluster. -/
def exampleHoldings (reported : Option String) : Store :=
  Workflow.exampleCatalog [(exampleReported reported).toJson]

theorem requested_storage_found :
    let answer := Store.serving id Workflow.exampleStamp
    let o := Workflow.exampleOptions "staging"
    let s := Standby.exampleSettings
    let r := ofBackup (exampleReported none) false
    (exampleReported none).NamesStorage "s3" ∧ r.storageName = some "s3" ∧
      (∃ window c x, Procedure.run answer (Workflow.plan o).run {} (exampleHoldings none) =
        Procedure.run answer (Workflow.planFrom o "c1" r window "s3").run c x) ∧
      ∃ task c x, task.backup = r ∧
        Procedure.run answer (Standby.cycle s).run {} (exampleHoldings none) =
          Procedure.run answer (Standby.restoreFrom s task "s3").run c x := by
  intro answer o s r
  have hnamed : (exampleReported none).NamesStorage "s3" :=
    .requested (fun _ hname => nomatch hname) rfl (by decide)
  have hshown : ¬ (exampleReported none).HidesStorage := fun hhidden => nomatch hhidden.reported
  rcases storage_found_unless_hidden hnamed false with ⟨hfound, -, hdecides⟩
  rcases hdecides midnight "s3://b/b1" rfl rfl (by decide) with ⟨window, -, hgoesOn, -⟩
  refine ⟨hnamed, hfound.mpr hshown, ?_, ?_⟩
  · have hchosen : (Procedure.run answer (Workflow.selection o).run {}
        (exampleHoldings none)).1.toOption = some ("c1", r) := by
      decide +kernel
    rcases hrun : Procedure.run answer (Workflow.selection o).run {} (exampleHoldings none) with
      ⟨outcome, c, x⟩
    rw [hrun] at hchosen
    cases outcome with
    | error e => cases hchosen
    | ok chosen =>
        cases hchosen
        exact ⟨window, c, x, ((hgoesOn hshown).plans o "c1").run_eq answer _ _ _ _ hrun⟩
  · have htask : (Procedure.run answer (Standby.outlook s).run {}
        (exampleHoldings none)).1.toOption.any
          (fun found => found.getRight?.any (·.backup == r)) = true := by
      decide +kernel
    rcases hrun : Procedure.run answer (Standby.outlook s).run {} (exampleHoldings none) with
      ⟨outcome, c, x⟩
    rw [hrun] at htask
    rcases outcome with e | outcome | task
    · cases htask
    · cases htask
    · have hbackup : task.backup = r := eq_of_beq htask
      have hcycles := (hgoesOn hshown).cycles s task hbackup
      exact ⟨task, c, x, hbackup, hcycles.run_eq answer _ _ _ _ hrun⟩

/-- A report of the empty name takes the storage away from the backup, and the backup from all who
would restore it. -/
theorem requested_storage_hidden :
    let refusal : Error := .validation "backup b1 does not name its storage"
    (¬ ∀ (b : Backup) (archives : Bool) (storage : String), b.NamesStorage storage →
        (ofBackup b archives).storageName = some storage) ∧
      (exampleHoldings (some "")).HoldsBackup "prod" (exampleReported (some "")) ∧
      (exampleHoldings (some "")).outcome Workflow.exampleStamp {}
        (Workflow.plan (Workflow.exampleOptions "staging")) = Except.error refusal ∧
      (exampleHoldings (some "")).outcome Workflow.exampleStamp {}
        (Standby.cycle Standby.exampleSettings) = Except.error refusal := by
  intro refusal
  refine ⟨?_, ?_, ?_, ?_⟩
  · intro hall
    have hnamed : (exampleReported (some "")).NamesStorage "s3" :=
      .requested (fun _ hname => (Option.some.inj hname).symm) rfl (by decide)
    cases hall _ false "s3" hnamed
  · have hreads := Backup.ofStored?_toJson (exampleReported (some ""))
    exact ⟨_, List.mem_cons_self, hreads⟩
  · decide +kernel
  · decide +kernel

end BackupRecord
end PointInTime
