import PointInTime.Proofs.Server.Writes
import PointInTime.Proofs.Standby.Due

/-!
# What decides a cycle

A cycle looks at the jobs of the target, the backups of the source, and the record, in this order,
and stops as soon as there is nothing to do.  Whatever it leaves out, the three of them decide: a
backup is due or none is.

Main statement: if no request fails, a cycle submits a job exactly if a backup is due, and all that
it writes is this job and, once the job was read as succeeded, the identity of the backup.
-/

namespace PointInTime
namespace Standby

open Store

/-- A job was submitted for a backup, and its identity was saved if the job was read as succeeded.
Nothing else was written. -/
def Pursued (s : Settings) (b : Backup) (h : History Server) : Prop :=
  ∃ job t, IsJobOf s b job ∧ Names t b ∧
    ((∃ e ∈ h, Job.IsSuccess s.targetScope job.metadata.name e) ∧
        writes h = [.createRestore job, .applyConfig s.targetScope
          ("rewind-standby-" ++ s.targetCluster) TrackingRecord.manager t.toData] ∨
      (¬ ∃ e ∈ h, Job.IsSuccess s.targetScope job.metadata.name e) ∧
        writes h = [.createRestore job])

variable {s : Settings} {h more log : History Server} {x y z : Store} {b : Backup}
variable {n : BackupRecord} {t : TrackingRecord} {job : Restore} {d : Demand} {a : d.Answer}

/-!
## Looking before writing
-/

/-- All that a cycle looks at before it decides. -/
def surveys (s : Settings) : List Demand :=
  [.server (.listRestores s.targetScope), .server (.listBackups s.sourceScope),
    .server (.listClusters s.sourceScope),
    .server (.getConfig s.targetScope (Name.forTracking s.targetCluster))]

/-- So far a cycle has only looked. -/
def Surveyed (s : Settings) (h : History Server) : Prop :=
  ∀ e ∈ h, e.1 ∈ surveys s

/-- What decides is looked at before anything else. -/
def SurveysFirst (s : Settings) (h : History Server) (d : Demand) : Prop :=
  d ∈ surveys s → Surveyed s h

/-- What decides is the same in two states. -/
structure SameView (s : Settings) (x y : Store) : Prop where
  restores : y.restoresIn s.targetScope = x.restoresIn s.targetScope
  backups : y.backupsIn s.sourceScope = x.backupsIn s.sourceScope
  tracked : tracked s y = tracked s x

/-- Whatever has been heard of what decides is so in a state. -/
structure Told (s : Settings) (x : Store) (h : History Server) : Prop where
  restores : ∀ jobs : List Restore, Heard h (.listRestores s.targetScope) jobs →
    jobs = (x.restoresIn s.targetScope).filterMap Restore.ofStored?
  backups : ∀ backups : List Backup, Heard h (.listBackups s.sourceScope) backups →
    backups = x.backupsIn s.sourceScope
  tracked : ∀ data : Option (Assoc String),
    Heard h (.getConfig s.targetScope (Name.forTracking s.targetCluster)) data →
      data = (tracked s x).bind ConfigMap.dataOfJson?

theorem surveyed_nil : Surveyed s [] :=
  fun _ he => by cases he

theorem Surveyed.snoc (hh : Surveyed s h) (hd : d ∈ surveys s) : Surveyed s (h ++ [⟨d, a⟩]) := by
  intro e he
  rcases List.mem_append.mp he with hold | hnew
  · exact hh e hold
  · rw [List.mem_singleton.mp hnew]
    exact hd

theorem isLook_of_mem_surveys (hd : d ∈ surveys s) : d.IsLook := by
  simp only [surveys, List.mem_cons, List.not_mem_nil, or_false] at hd
  rcases hd with rfl | rfl | rfl | rfl <;> rfl

theorem Surveyed.writes_eq_nil (hh : Surveyed s h) : writes h = [] :=
  PointInTime.writes_eq_nil fun e he => (isLook_of_mem_surveys (hh e he)).not_isWrite

theorem Surveyed.not_isSuccess (hh : Surveyed s h) {scope name : String} {e : Exchange Server}
    (he : e ∈ h) : ¬ Job.IsSuccess scope name e := by
  intro hread
  rcases hread with ⟨r, rfl, -⟩
  have hsurvey := hh _ he
  simp [surveys] at hsurvey

theorem Told.of_append (hh : Told s x (h ++ more)) : Told s x h where
  restores jobs hheard := hh.restores jobs (hheard.append more)
  backups backups hheard := hh.backups backups (hheard.append more)
  tracked data hheard := hh.tracked data (hheard.append more)

theorem Told.step (hh : Told s x h) (hy : d ∈ surveys s → SameView s x y)
    (ha : LossyAnswers y d a z) : Told s x (h ++ [⟨d, a⟩]) where
  restores jobs hheard := by
    rcases List.mem_append.mp hheard with hold | hnew
    · exact hh.restores jobs hold
    · cases List.mem_singleton.mp hnew
      rw [(perform_listRestores_ok ha.of_ok.1).2, (hy (by simp [surveys])).restores]
  backups backups hheard := by
    rcases List.mem_append.mp hheard with hold | hnew
    · exact hh.backups backups hold
    · cases List.mem_singleton.mp hnew
      rw [perform_listBackups_ok ha.of_ok.1, (hy (by simp [surveys])).backups]
  tracked data hheard := by
    rcases List.mem_append.mp hheard with hold | hnew
    · exact hh.tracked data hold
    · cases List.mem_singleton.mp hnew
      rw [perform_getConfig_ok ha.of_ok.1, ← (hy (by simp [surveys])).tracked]
      rfl

theorem SameView.step (hy : SameView s x y) (hd : d ∈ surveys s) (ha : LossyAnswers y d a z) :
    SameView s x z := by
  have hlook := isLook_of_mem_surveys hd
  cases d with
  | stamp => cases hlook
  | server r =>
      have hsame : z = y := by
        rcases ha.cases with ⟨hz, -⟩ | ⟨hz, -⟩
        · rw [hz, perform_of_isLook hlook]
        · exact hz
      rw [hsame]
      exact hy

/-!
## The decision
-/

/-- If all that was told is so and no request failed, either nothing is written and no backup is
due, or the one that is due is pursued. -/
def Decided (s : Settings) (x : Store) (h : History Server) : Prop :=
  Told s x h → AllSucceed h →
    (writes h = [] ∧ ∀ b, ¬ Due s x b) ∨ ∃ b, Due s x b ∧ Pursued s b h

theorem decided_of_error (h : History Server) (r : Request) (e : Error) :
    Decided s x (h ++ [⟨.server r, Except.error e⟩]) :=
  fun _ hall => absurd hall (not_allSucceed_of_error h r e)

theorem Surveyed.decided (hh : Surveyed s h) (hnone : Told s x h → ∀ b, ¬ Due s x b) :
    Decided s x h :=
  fun htold _ => Or.inl ⟨hh.writes_eq_nil, hnone htold⟩

/-- A job was submitted for a due backup, and nothing else was written. -/
structure Submitted (s : Settings) (x : Store) (t : TrackingRecord) (job : Restore)
    (h : History Server) : Prop where
  due : Told s x h → ∃ b, Due s x b ∧ IsJobOf s b job ∧ Names t b
  writes : writes h = [.createRestore job]

theorem Submitted.decided (hh : Submitted s x t job h)
    (hnone : ¬ ∃ e ∈ h, Job.IsSuccess s.targetScope job.metadata.name e) : Decided s x h := by
  intro htold _
  rcases hh.due htold with ⟨b, hdue, hjob, hnames⟩
  exact Or.inr ⟨b, hdue, job, t, hjob, hnames, Or.inr ⟨hnone, hh.writes⟩⟩

/-- A write of the identity is repeated only after it failed. -/
theorem Submitted.decided_of_saved (hh : Submitted s x t job h)
    (hsuccess : ∃ e ∈ h, Job.IsSuccess s.targetScope job.metadata.name e)
    (hmore : ∀ e ∈ more, TrackingRecord.IsFailedWrite s.targetScope s.targetCluster t e) :
    Decided s x (h ++ more ++
      [⟨.server (TrackingRecord.write s.targetScope s.targetCluster t), Except.ok ()⟩]) := by
  intro htold hall
  have hnone : more = [] := by
    rw [List.eq_nil_iff_forall_not_mem]
    intro e he
    rcases hmore e he with ⟨error, rfl⟩
    exact hall.append_left.append_right _ he
  subst hnone
  rw [List.append_nil] at htold ⊢
  rcases hh.due htold.of_append with ⟨b, hdue, hjob, hnames⟩
  rcases hsuccess with ⟨e, he, hread⟩
  refine Or.inr ⟨b, hdue, job, t, hjob, hnames, Or.inl ⟨?_, ?_⟩⟩
  · exact ⟨e, List.mem_append_left _ he, hread⟩
  · rw [writes_append, hh.writes]
    rfl

theorem writes_of_readings {scope name : String}
    (hmore : ∀ e ∈ more, Job.IsReading scope name e) : writes more = [] := by
  apply writes_eq_nil
  intro e he
  rcases hmore e he with ⟨outcome, rfl⟩
  exact Bool.false_ne_true

/-- All that decides speaks for restoring this backup, unless its storage is unknown. -/
structure Resolved (s : Settings) (x : Store) (h : History Server) (n : BackupRecord)
    (t : TrackingRecord) : Prop where
  surveyed : Surveyed s h
  next : Told s x h → IsNext s x n
  isNews : Told s x h → ∀ last, record? s x = some last → last.identifies n = false
  identity : TrackingRecord.ofRecord? n = some t

theorem Resolved.not_due_of_storage (hh : Resolved s x h n t) (hstorage : n.storageName = none)
    (htold : Told s x h) (b : Backup) : ¬ Due s x b := by
  intro hdue
  rcases (hh.next htold).record_of_due hdue with ⟨clusters, rfl⟩
  rcases hdue.stored with ⟨storage, hstored⟩
  cases hstorage.symm.trans hstored

variable {name storage : String} {completedAt : Instant}

theorem Resolved.submitted (hh : Resolved s x h n t) (stamp : Stamp)
    (hcompleted : n.completedAt = some completedAt)
    (hstorage : n.storageName = some storage)
    (hbuild : Job.build name s.targetScope s.targetCluster n completedAt storage = Except.ok job)
    (hmore : ∀ e ∈ more, Job.IsReading s.targetScope name e) :
    Submitted s x t job
      (h ++ [⟨.stamp, stamp⟩] ++ [⟨.server (.createRestore job), Except.ok ()⟩] ++ more) where
  due := by
    intro htold
    have hearlier := htold.of_append.of_append.of_append
    rcases (hh.next hearlier).exists_due hh.identity hstorage (hh.isNews hearlier) with
      ⟨b, clusters, hdue, rfl⟩
    rcases TrackingRecord.ofRecord?_eq_some hh.identity with ⟨hsecond, hdestination⟩
    exact ⟨b, hdue, isJobOf_of_build hdue hcompleted hstorage hbuild, hsecond,
      hdue.destination.symm.trans hdestination⟩
  writes := by
    rw [writes_append, writes_append, writes_append, hh.surveyed.writes_eq_nil,
      writes_of_readings hmore]
    rfl

/-- Nobody reads a job before it is submitted. -/
theorem Surveyed.exists_isSuccess_iff (hh : Surveyed s h) (stamp : Stamp) (job : Restore) :
    (∃ e ∈ h ++ [⟨.stamp, stamp⟩] ++ [⟨.server (.createRestore job), Except.ok ()⟩] ++ more,
        Job.IsSuccess s.targetScope name e) ↔
      ∃ e ∈ more, Job.IsSuccess s.targetScope name e := by
  constructor
  · intro hany
    rcases hany with ⟨e, he, hread⟩
    simp only [List.mem_append, List.mem_singleton] at he
    rcases he with ((hlooked | rfl) | rfl) | hmore
    · exact absurd hread (hh.not_isSuccess hlooked)
    · rcases hread with ⟨r, heq, -⟩
      cases heq
    · rcases hread with ⟨r, heq, -⟩
      cases heq
    · exact ⟨e, hmore, hread⟩
  · intro hany
    rcases hany with ⟨e, he, hread⟩
    exact ⟨e, List.mem_append_right _ he, hread⟩

theorem ensures_restore_decided (hh : Resolved s x h n t)
    (hcompleted : n.completedAt = some completedAt) :
    Operation.Ensures (SurveysFirst s) (fun h _ => Decided s x h) (fun h _ => Decided s x h)
      (restore s n completedAt t) h := by
  unfold restore
  rw [Operation.ensures_bind, Operation.ensures_of]
  cases hstorage : n.storageName with
  | none =>
      simp only [storageOf, hstorage]
      exact hh.surveyed.decided (hh.not_due_of_storage hstorage)
  | some storage =>
      simp only [storageOf, hstorage]
      rw [Operation.ensures_bind]
      apply Job.ensures_submit
      · exact fun hd => absurd hd (by simp [surveys])
      · intro stamp name e hfailed
        have hlocated := (TrackingRecord.ofRecord?_eq_some hh.identity).2
        rcases Job.exists_build_of_destination name s.targetScope s.targetCluster completedAt
          storage ⟨t.destination, hlocated⟩ with ⟨job, hbuild⟩
        cases hfailed.symm.trans hbuild
      · intro stamp job hbuild
        refine ⟨fun hd => absurd hd (by simp [surveys]), ?_, fun e => decided_of_error _ _ e⟩
        rw [Operation.ensures_bind]
        apply Job.ensures_await
        · exact fun more hd => absurd hd (by simp [surveys])
        · intro more outcome hmore hsuccess
          have hsubmitted := hh.submitted stamp hcompleted hstorage hbuild hmore
          rw [← hh.surveyed.exists_isSuccess_iff stamp job] at hsuccess
          cases outcome with
          | succeeded =>
              rw [Operation.ensures_bind]
              apply TrackingRecord.ensures_save
              · exact fun tries hd => absurd hd (by simp [surveys, TrackingRecord.write])
              · intro tries htries
                exact hsubmitted.decided_of_saved (hsuccess.mp rfl) htries
              · intro tries error htries
                exact decided_of_error _ _ error
          | failed state comments =>
              exact hsubmitted.decided fun hread => by cases hsuccess.mpr hread
          | timedOut lastState =>
              exact hsubmitted.decided fun hread => by cases hsuccess.mpr hread
          | cancelled =>
              exact hsubmitted.decided fun hread => by cases hsuccess.mpr hread
        · intro more e hmore hnone
          rw [← hh.surveyed.exists_isSuccess_iff stamp job] at hnone
          exact (hh.submitted stamp hcompleted hstorage hbuild hmore).decided hnone

theorem ensures_catchUp_decided (hsurveyed : Surveyed s h) (hnext : Told s x h → IsNext s x n) :
    Operation.Ensures (SurveysFirst s) (fun h _ => Decided s x h) (fun h _ => Decided s x h)
      (catchUp s n) h := by
  unfold catchUp
  split
  · rename_i completedAt t hcompleted hidentity
    rw [Operation.ensures_bind]
    apply TrackingRecord.ensures_load
    · exact fun _ => hsurveyed
    · intro data
      generalize hlog : h ++ [⟨.server (.getConfig s.targetScope
        (Name.forTracking s.targetCluster)), Except.ok data⟩] = loaded
      have hloaded : Surveyed s loaded := by
        rw [← hlog]
        exact hsurveyed.snoc (by simp [surveys])
      have hrecord (htold : Told s x loaded) : record? s x = data.bind TrackingRecord.ofData? := by
        rw [← hlog] at htold
        rw [record?, ← htold.tracked data (heard_append_singleton _ _ _)]
      have hnext' (htold : Told s x loaded) : IsNext s x n := by
        rw [← hlog] at htold
        exact hnext htold.of_append
      have hresolved (hnews : ∀ last, data.bind TrackingRecord.ofData? = some last →
          last.identifies n = false) : Resolved s x loaded n t :=
        ⟨hloaded, hnext', fun htold last hlast => hnews last ((hrecord htold).symm.trans hlast),
          hidentity⟩
      cases hlast : data.bind TrackingRecord.ofData? with
      | none =>
          exact ensures_restore_decided (hresolved (by simp [hlast])) hcompleted
      | some last =>
          by_cases hsame : last.identifies n
          · simp only [hsame, if_true]
            apply hloaded.decided
            intro htold b hdue
            rcases (hnext' htold).record_of_due hdue with ⟨clusters, rfl⟩
            have hother := hdue.identifies clusters ((hrecord htold).trans hlast)
            rw [hsame] at hother
            cases hother
          · simp only [hsame, Bool.false_eq_true, if_false]
            apply ensures_restore_decided (hresolved ?_) hcompleted
            intro last' hlast'
            cases hlast.symm.trans hlast'
            exact Bool.eq_false_iff.mpr hsame
    · intro e
      exact decided_of_error _ _ e
  · rename_i hincomplete
    apply hsurveyed.decided
    intro htold b hdue
    rcases (hnext htold).record_of_due hdue with ⟨clusters, rfl⟩
    rcases hdue.completed with ⟨completedAt, hcompleted⟩
    rcases hdue.exists_identity clusters with ⟨t, hidentity⟩
    exact hincomplete completedAt t hcompleted hidentity

theorem ensures_cycle_decided (s : Settings) (x : Store) :
    Operation.Ensures (SurveysFirst s) (fun h _ => Decided s x h) (fun h _ => Decided s x h)
      (cycle s) [] := by
  unfold cycle
  rw [Operation.ensures_bind]
  apply Job.ensures_countInFlight
  · exact fun _ => surveyed_nil
  · intro jobs
    have hlisted : Surveyed s ([] ++ [⟨.server (.listRestores s.targetScope), Except.ok jobs⟩]) :=
      surveyed_nil.snoc (by simp [surveys])
    have hover (htold : Told s x ([] ++
        [⟨.server (.listRestores s.targetScope), Except.ok jobs⟩])) :
        AllOver s x ↔ ¬ 0 < (jobs.filter (·.state.isInFlight)).length := by
      rw [htold.restores jobs (heard_append_singleton _ _ _)]
      exact allOver_iff
    by_cases hcount : 0 < (jobs.filter (·.state.isInFlight)).length
    · rw [if_pos hcount]
      apply hlisted.decided
      intro htold b hdue
      exact (hover htold).mp hdue.allOver hcount
    · rw [if_neg hcount, Operation.ensures_bind, Operation.ensures_lift]
      apply Catalog.ensures_newest
      · exact fun _ => hlisted
      · exact fun backups _ => hlisted.snoc (by simp [surveys])
      · intro outcome hempty
        cases outcome with
        | error e => exact decided_of_error _ _ e
        | ok backups =>
            apply Surveyed.decided (hlisted.snoc (by simp [surveys]))
            intro htold
            have hnone : x.backupsIn s.sourceScope = [] := by
              rw [← htold.backups backups (heard_append_singleton _ _ _)]
              exact hempty
            apply not_due_of_newestOf
            rw [hnone]
            exact Catalog.newestOf_nil [] _
      · intro backups clusters
        generalize hlog : ([] ++ [⟨.server (.listRestores s.targetScope), Except.ok jobs⟩] ++
          [⟨.server (.listBackups s.sourceScope), Except.ok backups⟩] ++
          [⟨.server (.listClusters s.sourceScope), clusters⟩] : History Server) = looked
        have hlooked : Surveyed s looked := by
          rw [← hlog]
          exact (hlisted.snoc (by simp [surveys])).snoc (by simp [surveys])
        have hbackups (htold : Told s x looked) : backups = x.backupsIn s.sourceScope := by
          rw [← hlog] at htold
          exact htold.of_append.backups backups (heard_append_singleton _ _ _)
        cases hnewest : Catalog.newestOf backups (clusters.toOption.getD []) s.sourceCluster with
        | none =>
            apply hlooked.decided
            intro htold
            rw [hbackups htold] at hnewest
            exact not_due_of_newestOf hnewest
        | some n =>
            apply ensures_catchUp_decided hlooked
            intro htold
            rw [hbackups htold] at hnewest
            rw [← hlog] at htold
            exact isNext_of_newestOf ((hover htold.of_append.of_append).mpr hcount) hnewest
  · intro e
    exact decided_of_error _ _ e

/-!
## Cycles without failures
-/

/-- As long as a cycle only looks, what decides stays as it was, and whatever it has heard of it is
so. -/
structure Faithful (s : Settings) (x : Store) (h : History Server) (y : Store) : Prop where
  sameView : Surveyed s h → SameView s x y
  told : Told s x h

theorem faithful_nil : Faithful s x [] x where
  sameView _ := ⟨rfl, rfl, rfl⟩
  told := ⟨fun _ hheard => (by cases hheard), fun _ hheard => (by cases hheard),
    fun _ hheard => (by cases hheard)⟩

theorem Faithful.step (hy : Faithful s x h y) (hfirst : SurveysFirst s h d)
    (ha : LossyAnswers y d a z) : Faithful s x (h ++ [⟨d, a⟩]) z where
  sameView := by
    intro hsurveyed
    have hbefore : Surveyed s h := fun e he => hsurveyed e (List.mem_append_left _ he)
    have hd : d ∈ surveys s :=
      hsurveyed ⟨d, a⟩ (List.mem_append_right _ (List.mem_singleton_self _))
    exact (hy.sameView hbefore).step hd ha
  told := hy.told.step (fun hd => hy.sameView (hfirst hd)) ha

variable {others : Store → Store → Prop} {outcome : Except Error Outcome}

theorem decided_of_passes (hothers : ∀ y z, others y z → SameView s x y → SameView s x z)
    (pass : Procedure.Passes (lossy others) x (cycle s).run log y (.done outcome)) :
    Told s x log ∧ Decided s x log := by
  have hcycle : Procedure.Ensures (SurveysFirst s) (fun h _ => Decided s x h) (cycle s).run [] := by
    refine Procedure.Ensures.mono (fun _ _ hd => hd) ?_ (ensures_cycle_decided s x)
    intro more outcome hdecided
    cases outcome with
    | ok o => exact hdecided
    | error e => exact hdecided
  have hdrift (h : History Server) (y z : Store) (hd : others y z) (hy : Faithful s x h y) :
      Faithful s x h z :=
    ⟨fun hsurveyed => hothers y z hd (hy.sameView hsurveyed), hy.told⟩
  have hanswer (h : History Server) (y : Store) (d : Demand) (a : d.Answer) (z : Store)
      (hfirst : SurveysFirst s h d) (ha : LossyAnswers y d a z) (hy : Faithful s x h y) :
      Faithful s x (h ++ [⟨d, a⟩]) z :=
    hy.step hfirst ha
  rcases pass.keeps hdrift hanswer hcycle faithful_nil with ⟨hfaithful, hdecided⟩
  exact ⟨hfaithful.told, hdecided⟩

theorem submits_iff_due
    (hothers : ∀ y z, others y z → SameView s x y → SameView s x z)
    (pass : Procedure.Passes (lossy others) x (cycle s).run log y (.done outcome))
    (hall : AllSucceed log) :
    ((∃ job, .createRestore job ∈ writes log) ↔ ∃ b, Due s x b) ∧
      ((¬ ∃ b, Due s x b) → writes log = []) ∧ ∀ b, Due s x b → Pursued s b log := by
  rcases decided_of_passes hothers pass with ⟨htold, hdecided⟩
  rcases hdecided htold hall with ⟨hwrites, hnone⟩ | ⟨b, hdue, hpursued⟩
  · refine ⟨⟨?_, ?_⟩, fun _ => hwrites, fun b hdue => absurd hdue (hnone b)⟩
    · intro hsubmitted
      rcases hsubmitted with ⟨job, hjob⟩
      rw [hwrites] at hjob
      cases hjob
    · intro hany
      rcases hany with ⟨b, hdue⟩
      exact absurd hdue (hnone b)
  · refine ⟨⟨fun _ => ⟨b, hdue⟩, ?_⟩, fun hnone => absurd ⟨b, hdue⟩ hnone, ?_⟩
    · intro _
      rcases hpursued with ⟨job, t, -, -, ⟨-, hwrites⟩ | ⟨-, hwrites⟩⟩
      · exact ⟨job, by rw [hwrites]; exact List.mem_cons_self⟩
      · exact ⟨job, by rw [hwrites]; exact List.mem_cons_self⟩
    · intro b' hdue'
      rw [hdue'.eq hdue]
      exact hpursued

theorem restoresIn_exampleOperator {scope : String} (h : y.restoresIn scope = []) :
    (exampleOperator y).restoresIn scope = [] := by
  have hscope (j : Json) : metadataText "namespace" (j.mapFields fun fields =>
      fields.set "status" (.obj [("state", .str "Succeeded")])) = metadataText "namespace" j := by
    cases j <;> simp [metadataText, Json.mapFields, Json.path?, Json.field?,
      Assoc.find?_set_of_ne]
  unfold restoresIn inScope exampleOperator at *
  rw [List.filter_map, List.map_eq_nil_iff]
  simpa [Function.comp_def, hscope] using h

/-- The first backup is due, and it is pursued to its end. -/
theorem first_backup_is_due :
    ∃ b, Due exampleSettings exampleStore b ∧
      Pursued exampleSettings b (exampleLog exampleOperator exampleStore) ∧
      (writes (exampleLog exampleOperator exampleStore)).length = 2 := by
  have hothers (y z : Store) (hz : z = exampleOperator y)
      (hy : SameView exampleSettings exampleStore y) : SameView exampleSettings exampleStore z := by
    subst hz
    exact ⟨restoresIn_exampleOperator hy.restores, hy.backups, hy.tracked⟩
  have hpass := passes_lossy (passes_exampleCycle (fun y z => z = exampleOperator y)
    exampleOperator (fun _ => Or.inr rfl) exampleStore)
  have hall : AllSucceed (exampleLog exampleOperator exampleStore) := by
    decide +kernel
  have hany : ((writes (exampleLog exampleOperator exampleStore)).any
      Request.isCreateRestore) = true := by
    decide +kernel
  rcases submits_iff_due hothers hpass hall with ⟨hiff, -, hpursued⟩
  rcases List.any_eq_true.mp hany with ⟨r, hmem, hr⟩
  cases r with
  | createRestore job =>
      rcases hiff.mp ⟨job, hmem⟩ with ⟨b, hdue⟩
      exact ⟨b, hdue, hpursued b hdue, by decide +kernel⟩
  | _ => cases hr

end Standby
end PointInTime
