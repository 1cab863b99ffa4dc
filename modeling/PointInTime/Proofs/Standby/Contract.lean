import PointInTime.Standby.Cycle
import PointInTime.Proofs.Catalog.Reading
import PointInTime.Proofs.Restore.Job
import PointInTime.Proofs.Server.Looks
import PointInTime.Proofs.Standby.Tracker

/-!
# All that a cycle does

Whatever a cycle is answered, it asks for nothing but what is listed here, and what it asks for is
justified by what it has heard.  Main statement: a cycle submits a job only for the backup that the
catalog selected, when the namespace was seen quiet and the record was read as another one, and
saves only the identity of the backup whose job it submitted and read as succeeded.

Everything else that is said of cycles follows from this description and from how the server
answers.
-/

namespace PointInTime
namespace Standby

/-!
## What a cycle has heard
-/

/-- Whether a namespace is known to be quiet after an exchange: no job was in flight when its jobs
were listed last, and none was submitted since. -/
def quietAfter (scope : String) (quiet : Bool) : Exchange Server → Bool
  | ⟨.server (.listRestores listed), outcome⟩ =>
      match (outcome : Except Error (List Restore)) with
      | .ok jobs => if listed = scope then jobs.all fun r => !r.state.isInFlight else quiet
      | .error _ => quiet
  | ⟨.server (.createRestore _), _⟩ => false
  | _ => quiet

def IsQuiet (scope : String) (h : History Server) : Prop :=
  h.foldl (quietAfter scope) false = true

def IsBackupListing (e : Exchange Server) : Prop :=
  ∃ scope, e.1 = .server (.listBackups scope)

/-- A submission of a job, whatever came of it. -/
def IsSubmission (e : Exchange Server) : Prop :=
  ∃ job, e.1 = .server (.createRestore job)

/-- A write of a configuration that was carried out. -/
def IsSave (e : Exchange Server) : Prop :=
  ∃ scope name manager data, e = ⟨.server (.applyConfig scope name manager data), Except.ok ()⟩

def Never (P : Exchange Server → Prop) (h : History Server) : Prop :=
  ∀ e ∈ h, ¬ P e

/-- The newest backup that can be restored from, as the catalog was read first: its backups and
clusters are listed one after the other. -/
def selected? (s : Settings) : History Server → Option BackupRecord
  | ⟨.server (.listBackups _), backups⟩ :: ⟨.server (.listClusters _), clusters⟩ :: _ =>
      Catalog.newestOf ((Except.toOption backups).getD []) ((Except.toOption clusters).getD [])
        s.sourceCluster
  | _ :: rest => selected? s rest
  | [] => none

def Selected (s : Settings) (h : History Server) (n : BackupRecord) : Prop :=
  selected? s h = some n

/-- The record was read, and it is not that of this backup. -/
def IsNews (s : Settings) (h : History Server) (n : BackupRecord) : Prop :=
  ∃ data : Option (Assoc String),
    ⟨.server (.getConfig s.targetScope (Name.forTracking s.targetCluster)), Except.ok data⟩ ∈ h ∧
      ∀ t, data.bind TrackingRecord.ofData? = some t → t.identifies n = false

def IsJobFor (s : Settings) (n : BackupRecord) (job : Restore) : Prop :=
  ∃ completedAt storage, n.completedAt = some completedAt ∧ n.storageName = some storage ∧
    Job.build job.metadata.name s.targetScope s.targetCluster n completedAt storage =
      Except.ok job

/-- A job was submitted and, after that, read as succeeded. -/
def HasSucceeded (s : Settings) (h : History Server) (job : Restore) : Prop :=
  ∃ before after, h = before ++ ⟨.server (.createRestore job), Except.ok ()⟩ :: after ∧
    ∃ e ∈ after, Job.IsSuccess s.targetScope job.metadata.name e

/-- The job of the selected backup has succeeded, and this is the identity of that backup. -/
structure Confirmed (s : Settings) (h : History Server) (n : BackupRecord) (job : Restore)
    (t : TrackingRecord) : Prop where
  selected : Selected s h n
  isJobFor : IsJobFor s n job
  hasSucceeded : HasSucceeded s h job
  identity : TrackingRecord.ofRecord? n = some t

structure Submits (s : Settings) (h : History Server) (job : Restore) : Prop where
  quiet : IsQuiet s.targetScope h
  isFirst : Never IsSubmission h
  backup : ∃ n, Selected s h n ∧ IsNews s h n ∧ IsJobFor s n job

def Saves (s : Settings) (h : History Server) (r : Request) : Prop :=
  ∃ n job t, Confirmed s h n job t ∧
    r = TrackingRecord.write s.targetScope s.targetCluster t

def Asks (s : Settings) (h : History Server) : Demand → Prop
  | .stamp => True
  | .server (.listRestores scope) => scope = s.targetScope
  | .server (.listBackups scope) => scope = s.sourceScope ∧ Never IsBackupListing h
  | .server (.listClusters scope) => scope = s.sourceScope
  | .server (.getConfig scope name) =>
      scope = s.targetScope ∧ name = Name.forTracking s.targetCluster
  | .server (.createRestore job) => Submits s h job
  | .server (.getRestore scope _) => scope = s.targetScope
  | .server (.applyConfig scope name manager data) =>
      Saves s h (.applyConfig scope name manager data)
  | _ => False

/-- What holds when a cycle returns: it has saved exactly if it restored. -/
def Returns (s : Settings) (h : History Server) : Outcome → Prop
  | .restored backup job =>
      ∃ n r t before, Confirmed s h n r t ∧ n.name = backup ∧ r.metadata.name = job ∧
        h = before ++
          [⟨.server (TrackingRecord.write s.targetScope s.targetCluster t), Except.ok ()⟩] ∧
        Never IsSave before
  | _ => Never IsSave h

/-!
## What is heard stays heard
-/

variable {s : Settings} {h : History Server} {n : BackupRecord} {job : Restore}
variable {t : TrackingRecord}

theorem isQuiet_append_singleton {scope : String} {e : Exchange Server} :
    IsQuiet scope (h ++ [e]) ↔ quietAfter scope (h.foldl (quietAfter scope) false) e = true := by
  rw [IsQuiet, List.foldl_append]
  rfl

theorem Selected.append (hn : Selected s h n) (more : History Server) :
    Selected s (h ++ more) n := by
  unfold Selected at hn ⊢
  fun_induction selected? s h with
  | case1 => exact hn
  | case2 e rest hother ih =>
      cases rest with
      | nil => cases hn
      | cons e' rest =>
          rw [← ih hn, List.cons_append, List.cons_append, selected?]
          intro scope backups scope' clusters later he hrest
          exact hother scope backups scope' clusters rest he (by rw [(List.cons.inj hrest).1])
  | case3 => cases hn

/-- What was selected is the newest of what was listed, if only the source was listed. -/
theorem Selected.heard (hn : Selected s h n)
    (hsource : ∀ scope (outcome : Except Error (List Backup)),
      (⟨.server (.listBackups scope), outcome⟩ : Exchange Server) ∈ h → scope = s.sourceScope) :
    ∃ backups clusters, Heard h (.listBackups s.sourceScope) backups ∧
      Catalog.newestOf backups clusters s.sourceCluster = some n := by
  unfold Selected at hn
  fun_induction selected? s h with
  | case1 scope outcome scope' outcome' rest =>
      cases hsource scope outcome List.mem_cons_self
      cases outcome with
      | error e =>
          have hnone := (Catalog.newestOf_nil _ s.sourceCluster).symm.trans hn
          cases hnone
      | ok backups => exact ⟨backups, _, List.mem_cons_self, hn⟩
  | case2 e rest hother ih =>
      have hrest := ih hn fun scope outcome hmem =>
        hsource scope outcome (List.mem_cons_of_mem _ hmem)
      rcases hrest with ⟨backups, clusters, hheard, hnewest⟩
      exact ⟨backups, clusters, List.mem_cons_of_mem _ hheard, hnewest⟩
  | case3 => cases hn

theorem HasSucceeded.append (hjob : HasSucceeded s h job) (more : History Server) :
    HasSucceeded s (h ++ more) job := by
  obtain ⟨before, after, rfl, e, he, hsuccess⟩ := hjob
  exact ⟨before, after ++ more, by simp, e, List.mem_append_left _ he, hsuccess⟩

theorem Confirmed.append (hc : Confirmed s h n job t) (more : History Server) :
    Confirmed s (h ++ more) n job t where
  selected := hc.selected.append more
  isJobFor := hc.isJobFor
  hasSucceeded := hc.hasSucceeded.append more
  identity := hc.identity

theorem Saves.append {r : Request} (hr : Saves s h r) (more : History Server) :
    Saves s (h ++ more) r := by
  obtain ⟨n, job, t, hconfirmed, rfl⟩ := hr
  exact ⟨n, job, t, hconfirmed.append more, rfl⟩

theorem Never.append {P : Exchange Server → Prop} {more : History Server} (hh : Never P h)
    (hmore : Never P more) : Never P (h ++ more) := by
  intro e he
  rcases List.mem_append.mp he with hold | hnew
  · exact hh e hold
  · exact hmore e hnew

theorem never_singleton {P : Exchange Server → Prop} {e : Exchange Server} (he : ¬ P e) :
    Never P [e] := by
  intro e' he'
  rw [List.mem_singleton.mp he']
  exact he

theorem not_isSave_of_ne {d : Demand} {x : d.Answer}
    (hd : ∀ scope name manager data, d ≠ .server (.applyConfig scope name manager data)) :
    ¬ IsSave ⟨d, x⟩ := by
  rintro ⟨scope, name, manager, data, hsave⟩
  exact hd scope name manager data (congrArg Sigma.fst hsave)

theorem not_isSubmission_of_ne {d : Demand} {x : d.Answer}
    (hd : ∀ job, d ≠ .server (.createRestore job)) : ¬ IsSubmission ⟨d, x⟩ := by
  rintro ⟨job, hjob⟩
  exact hd job hjob

theorem not_isSave_of_isReading {scope name : String} {e : Exchange Server}
    (he : Job.IsReading scope name e) : ¬ IsSave e := by
  rintro ⟨scope', name', manager, data, hsave⟩
  obtain ⟨x, hreading⟩ := he
  have hfst := congrArg Sigma.fst (hreading.symm.trans hsave)
  cases hfst

theorem not_isSave_of_isFailedWrite {scope cluster : String} {e : Exchange Server}
    (he : TrackingRecord.IsFailedWrite scope cluster t e) : ¬ IsSave e := by
  rintro ⟨scope', name', manager, data, hsave⟩
  obtain ⟨error, hwrite⟩ := he
  have heq := hwrite.symm.trans hsave
  cases heq

/-!
## Restoring
-/

structure Ready (s : Settings) (h : History Server) (n : BackupRecord) : Prop where
  quiet : IsQuiet s.targetScope h
  selected : Selected s h n
  isNews : IsNews s h n
  nothingSubmitted : Never IsSubmission h
  nothingSaved : Never IsSave h

theorem Ready.submits (hready : Ready s h n) (stamp : Stamp) (hjob : IsJobFor s n job) :
    Submits s (h ++ [⟨.stamp, stamp⟩]) job where
  quiet := by
    rw [isQuiet_append_singleton]
    exact hready.quiet
  isFirst := by
    apply hready.nothingSubmitted.append
    exact never_singleton (not_isSubmission_of_ne fun _ hd => by cases hd)
  backup := by
    obtain ⟨data, hmem, hother⟩ := hready.isNews
    exact ⟨n, hready.selected.append _, ⟨data, List.mem_append_left _ hmem, hother⟩, hjob⟩

theorem ensures_restore {completedAt : Instant} (hready : Ready s h n)
    (hcompleted : n.completedAt = some completedAt)
    (hidentity : TrackingRecord.ofRecord? n = some t) :
    Operation.Ensures (Asks s) (Returns s) (fun h _ => Never IsSave h)
      (restore s n completedAt t) h := by
  unfold restore
  rw [Operation.ensures_bind, Operation.ensures_of]
  cases hstorage : n.storageName with
  | none =>
      simpa [storageOf, hstorage] using hready.nothingSaved
  | some storage =>
      simp only [storageOf, hstorage]
      rw [Operation.ensures_bind]
      have hstamped (stamp : Stamp) : Never IsSave (h ++ [⟨.stamp, stamp⟩]) :=
        hready.nothingSaved.append
          (never_singleton (not_isSave_of_ne (fun _ _ _ _ hd => by cases hd)))
      apply Job.ensures_submit trivial
      · intro stamp _ e _
        exact hstamped stamp
      · intro stamp job hbuild
        have hjob : IsJobFor s n job := ⟨completedAt, storage, hcompleted, hstorage, hbuild⟩
        have hsubmitted (x : Except Error Unit) :
            Never IsSave (h ++ [⟨.stamp, stamp⟩] ++ [⟨.server (.createRestore job), x⟩]) :=
          (hstamped stamp).append
            (never_singleton (not_isSave_of_ne (fun _ _ _ _ hd => by cases hd)))
        refine ⟨hready.submits stamp hjob, ?_, fun e => hsubmitted (Except.error e)⟩
        rw [Operation.ensures_bind]
        apply Job.ensures_await
        · intro more
          rfl
        · intro more outcome hmore hsuccess
          have hwaited : Never IsSave (h ++ [⟨.stamp, stamp⟩] ++
              [⟨.server (.createRestore job), Except.ok ()⟩] ++ more) :=
            (hsubmitted (Except.ok ())).append fun e he => not_isSave_of_isReading (hmore e he)
          cases outcome with
          | succeeded =>
              have hconfirmed : Confirmed s (h ++ [⟨.stamp, stamp⟩] ++
                  [⟨.server (.createRestore job), Except.ok ()⟩] ++ more) n job t :=
                { selected := ((hready.selected.append _).append _).append _
                  isJobFor := hjob
                  hasSucceeded := ⟨h ++ [⟨.stamp, stamp⟩], more, by simp, hsuccess.mp rfl⟩
                  identity := hidentity }
              rw [Operation.ensures_bind]
              apply TrackingRecord.ensures_save
              · intro writes
                exact ⟨n, job, t, hconfirmed.append writes, rfl⟩
              · intro writes hwrites
                refine ⟨n, job, t, _, (hconfirmed.append writes).append _, rfl, rfl, rfl, ?_⟩
                exact hwaited.append fun e he => not_isSave_of_isFailedWrite (hwrites e he)
              · intro writes e hwrites
                apply Never.append
                · exact hwaited.append fun e he => not_isSave_of_isFailedWrite (hwrites e he)
                · exact never_singleton (not_isSave_of_isFailedWrite ⟨e, rfl⟩)
          | failed state comments => exact hwaited
          | timedOut lastState => exact hwaited
          | cancelled => exact hwaited
        · intro more e hmore _
          exact (hsubmitted (Except.ok ())).append fun e he => not_isSave_of_isReading (hmore e he)

/-!
## The cycle
-/

structure Informed (s : Settings) (h : History Server) (n : BackupRecord) : Prop where
  quiet : IsQuiet s.targetScope h
  selected : Selected s h n
  nothingSubmitted : Never IsSubmission h
  nothingSaved : Never IsSave h

theorem ensures_catchUp (hinformed : Informed s h n) :
    Operation.Ensures (Asks s) (Returns s) (fun h _ => Never IsSave h) (catchUp s n) h := by
  have hloaded (x : Except Error (Option (Assoc String))) : Never IsSave (h ++
      [⟨.server (.getConfig s.targetScope (Name.forTracking s.targetCluster)), x⟩]) :=
    hinformed.nothingSaved.append
      (never_singleton (not_isSave_of_ne (fun _ _ _ _ hd => by cases hd)))
  have hready (data : Option (Assoc String))
      (hnews : ∀ last, data.bind TrackingRecord.ofData? = some last → last.identifies n = false) :
      Ready s (h ++ [⟨.server (.getConfig s.targetScope (Name.forTracking s.targetCluster)),
        Except.ok data⟩]) n :=
    { quiet := by
        rw [isQuiet_append_singleton]
        exact hinformed.quiet
      selected := hinformed.selected.append _
      isNews := ⟨data, by simp, hnews⟩
      nothingSubmitted := by
        apply hinformed.nothingSubmitted.append
        exact never_singleton (not_isSubmission_of_ne fun _ hd => by cases hd)
      nothingSaved := hloaded (Except.ok data) }
  unfold catchUp
  split
  · rename_i completedAt t hcompleted hidentity
    rw [Operation.ensures_bind]
    apply TrackingRecord.ensures_load ⟨rfl, rfl⟩
    · intro data
      cases hlast : data.bind TrackingRecord.ofData? with
      | none =>
          exact ensures_restore (hready data (by simp [hlast])) hcompleted hidentity
      | some last =>
          by_cases hsame : last.identifies n
          · simp only [hsame, if_true]
            exact hloaded (Except.ok data)
          · simp only [hsame, Bool.false_eq_true, if_false]
            apply ensures_restore (hready data ?_) hcompleted hidentity
            intro last' hlast'
            have heq : last = last' := Option.some.inj (hlast.symm.trans hlast')
            rw [← heq]
            simpa using hsame
    · intro e
      exact hloaded (Except.error e)
  · exact hinformed.nothingSaved

theorem isQuiet_of_listed (scope : String) {jobs : List Restore}
    (hjobs : ¬ 0 < (jobs.filter (·.state.isInFlight)).length) :
    IsQuiet scope [⟨.server (.listRestores scope), Except.ok jobs⟩] := by
  have hnone : jobs.filter (·.state.isInFlight) = [] := by
    simpa using hjobs
  have hall : (jobs.all fun r => !r.state.isInFlight) = true := by
    rw [List.all_eq_true]
    intro r hr
    have hr' := List.filter_eq_nil_iff.mp hnone r hr
    simpa using hr'
  simpa [IsQuiet, quietAfter] using hall

theorem ensures_cycle (s : Settings) :
    Operation.Ensures (Asks s) (Returns s) (fun h _ => Never IsSave h) (cycle s) [] := by
  have hlisted (x : Except Error (List Restore)) :
      Never IsSave ([] ++ [⟨.server (.listRestores s.targetScope), x⟩]) :=
    never_singleton (not_isSave_of_ne (fun _ _ _ _ hd => by cases hd))
  unfold cycle
  rw [Operation.ensures_bind]
  apply Job.ensures_countInFlight rfl
  · intro jobs
    by_cases hcount : 0 < (jobs.filter (·.state.isInFlight)).length
    · rw [if_pos hcount]
      exact hlisted (Except.ok jobs)
    · rw [if_neg hcount, Operation.ensures_bind, Operation.ensures_lift]
      have hquiet := isQuiet_of_listed s.targetScope hcount
      have hbackups (x : Except Error (List Backup)) :=
        (hlisted (Except.ok jobs)).append
          (never_singleton (not_isSave_of_ne (d := .server (.listBackups s.sourceScope)) (x := x)
            (fun _ _ _ _ hd => by cases hd)))
      apply Catalog.ensures_newest
      · refine ⟨rfl, ?_⟩
        apply never_singleton
        rintro ⟨_, hlist⟩
        cases hlist
      · intro backups
        rfl
      · intro outcome _
        exact hbackups outcome
      · intro backups clusters
        have hclusters := (hbackups (Except.ok backups)).append
          (never_singleton (not_isSave_of_ne (d := .server (.listClusters s.sourceScope))
            (x := clusters) (fun _ _ _ _ hd => by cases hd)))
        cases hnewest : Catalog.newestOf backups (clusters.toOption.getD []) s.sourceCluster with
        | none => exact hclusters
        | some n =>
            apply ensures_catchUp
            exact
              { quiet := hquiet
                selected := hnewest
                nothingSubmitted := by
                  simp [Never, IsSubmission]
                nothingSaved := hclusters }
  · intro e
    exact hlisted (Except.error e)

end Standby
end PointInTime
