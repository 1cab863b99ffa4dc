import PointInTime.Restore.Job
import PointInTime.Proofs.Resource.Restore
import PointInTime.Proofs.Server.Operation

/-!
# What the operations on restore jobs ensure

Counting is one listing, submitting a stamp and one creation, and following a job reads it any
number of times and does nothing else.  A wait ends in success exactly if the job was read as
succeeded.
-/

namespace PointInTime
namespace Job

variable {asks : History Server → Demand → Prop} {h : History Server}

/-!
## Building
-/

theorem build_eq_ok {name scope cluster storageName : String} {backup : BackupRecord}
    {instant : Instant} {job : Restore}
    (hjob : build name scope cluster backup instant storageName = Except.ok job) :
    job.metadata.name = name ∧ job.metadata.scope = scope ∧ job.status = none ∧
      ∃ destination, backup.destination = some destination ∧
        job.spec.backupSource = some ⟨some destination, some storageName⟩ := by
  unfold build at hjob
  cases hd : backup.destination with
  | none =>
      rw [hd] at hjob
      cases hjob
  | some destination =>
      rw [hd] at hjob
      cases hjob
      exact ⟨rfl, rfl, rfl, destination, rfl, rfl⟩

theorem cluster_of_build {name scope cluster storageName : String} {backup : BackupRecord}
    {instant : Instant} {job : Restore}
    (hjob : build name scope cluster backup instant storageName = Except.ok job) :
    job.spec.cluster = cluster := by
  unfold build at hjob
  split at hjob
  · cases hjob
  · cases hjob
    rfl

theorem mark_of_build {name scope cluster storageName : String} {backup : BackupRecord}
    {instant : Instant} {job : Restore}
    (hjob : build name scope cluster backup instant storageName = Except.ok job) :
    job.metadata.annotations.find? Mark.sourceBackup = some backup.name := by
  unfold build at hjob
  split at hjob
  · cases hjob
  · cases hjob
    exact Assoc.find?_set_self _ _ _

theorem exists_build_of_destination (name scope cluster : String) {backup : BackupRecord}
    (instant : Instant) (storageName : String)
    (hdestination : ∃ destination, backup.destination = some destination) :
    ∃ job, build name scope cluster backup instant storageName = Except.ok job := by
  obtain ⟨destination, hdestination⟩ := hdestination
  unfold build
  rw [hdestination]
  exact ⟨_, rfl⟩

/-!
## Looking and submitting
-/

theorem ensures_countInFlight {returns : History Server → Nat → Prop}
    {fails : History Server → Error → Prop} {scope : String}
    (hasks : asks h (.server (.listRestores scope)))
    (hreturns : ∀ jobs : List Restore,
      returns (h ++ [⟨.server (.listRestores scope), Except.ok jobs⟩])
        (jobs.filter (·.state.isInFlight)).length)
    (hfails : ∀ e, fails (h ++ [⟨.server (.listRestores scope), Except.error e⟩]) e) :
    Operation.Ensures asks returns fails (countInFlight scope) h := by
  unfold countInFlight
  rw [Operation.ensures_bind]
  exact Operation.ensures_send.mpr ⟨hasks, hreturns, hfails⟩

theorem ensures_submit {returns : History Server → String → Prop}
    {fails : History Server → Error → Prop} {scope cluster storageName : String}
    {backup : BackupRecord} {instant : Instant}
    (hstamp : asks h .stamp)
    (hbuild : ∀ (stamp : Stamp) name e,
      build name scope cluster backup instant storageName = Except.error e →
      fails (h ++ [⟨.stamp, stamp⟩]) e)
    (hcreate : ∀ (stamp : Stamp) (job : Restore),
      build job.metadata.name scope cluster backup instant storageName = Except.ok job →
      asks (h ++ [⟨.stamp, stamp⟩]) (.server (.createRestore job)) ∧
        returns (h ++ [⟨.stamp, stamp⟩] ++ [⟨.server (.createRestore job), Except.ok ()⟩])
          job.metadata.name ∧
        ∀ e, fails (h ++ [⟨.stamp, stamp⟩] ++ [⟨.server (.createRestore job), Except.error e⟩]) e) :
    Operation.Ensures asks returns fails (submit scope cluster backup instant storageName) h := by
  unfold submit
  rw [Operation.ensures_bind, Operation.ensures_lift]
  refine ⟨hstamp, fun stamp : Stamp => ?_⟩
  show Operation.Ensures asks returns fails (Operation.of _ >>= fun _ => _) _
  rw [Operation.ensures_bind, Operation.ensures_of]
  cases hjob : build (Name.forJob cluster stamp.time stamp.nonce) scope cluster backup instant
      storageName with
  | error e =>
      exact hbuild stamp _ e hjob
  | ok job =>
      have hname := (build_eq_ok hjob).1
      obtain ⟨hasks, hreturns, hfails⟩ := hcreate stamp job (by rw [hname]; exact hjob)
      rw [hname] at hreturns
      show Operation.Ensures asks returns fails (Operation.createRestore job >>= fun _ => pure _) _
      rw [Operation.ensures_bind]
      exact Operation.ensures_send.mpr ⟨hasks, fun _ => hreturns, hfails⟩

/-!
## Following
-/

def IsReading (scope job : String) (e : Exchange Server) : Prop :=
  ∃ x : Except Error (Option Restore), e = ⟨.server (.getRestore scope job), x⟩

def IsSuccess (scope job : String) (e : Exchange Server) : Prop :=
  ∃ r : Restore, e = ⟨.server (.getRestore scope job), Except.ok (some r)⟩ ∧
    r.state = .succeeded

theorem judge_eq_succeeded_iff {scope job : String} {seen : RestoreState}
    {x : Except Error (Option Restore)} :
    judge scope job seen x = .inl (Except.ok .succeeded) ↔
      IsSuccess scope job ⟨.server (.getRestore scope job), x⟩ := by
  constructor
  · intro hjudge
    unfold judge at hjudge
    split at hjudge
    · rename_i r
      refine ⟨r, rfl, ?_⟩
      split at hjudge
      · assumption
      · cases hjudge
      · cases hjudge
      · cases hjudge
    · cases hjudge
    · split at hjudge
      · cases hjudge
      · cases hjudge
  · rintro ⟨r, hread, hstate⟩
    cases hread
    simp only [judge, hstate]

theorem ensures_look {ends : History Server → Except Error Outcome ⊕ RestoreState → Prop}
    {scope job : String} {seen : RestoreState}
    (hasks : asks h (.server (.getRestore scope job)))
    (hends : ∀ x : Except Error (Option Restore),
      ends (h ++ [⟨.server (.getRestore scope job), x⟩]) (judge scope job seen x)) :
    Procedure.Ensures asks ends (look scope job seen) h :=
  ⟨hasks, hends⟩

/-- The history of a wait and its end: readings, one of them a success exactly if success is the
end. -/
def IsFollowed (scope job : String) (h h' : History Server)
    (r : Procedure.FollowEnd (Except Error Outcome) RestoreState) : Prop :=
  ∃ more, h' = h ++ more ∧ (∀ e ∈ more, IsReading scope job e) ∧
    (r = .decided (Except.ok .succeeded) ↔ ∃ e ∈ more, IsSuccess scope job e)

theorem ensures_follow {scope job : String} {interval timeout : Duration} {seen : RestoreState}
    (hasks : ∀ more, asks (h ++ more) (.server (.getRestore scope job))) :
    Procedure.Ensures asks (IsFollowed scope job h)
      (Procedure.follow interval (look scope job) seen timeout) h := by
  apply Procedure.ensures_followWithin
    (fun h' => ∃ more, h' = h ++ more ∧
      ∀ e ∈ more, IsReading scope job e ∧ ¬ IsSuccess scope job e)
  · rintro _ seen ⟨more, rfl, hmore⟩
    apply ensures_look (hasks more)
    intro x
    have hhistory : h ++ more ++ [⟨.server (.getRestore scope job), x⟩] =
        h ++ (more ++ [⟨.server (.getRestore scope job), x⟩]) := by
      rw [List.append_assoc]
    have hreadings : ∀ e ∈ more ++ [⟨.server (.getRestore scope job), x⟩],
        IsReading scope job e := by
      intro e he
      rcases List.mem_append.mp he with hold | hnew
      · exact (hmore e hold).1
      · exact ⟨x, List.mem_singleton.mp hnew⟩
    -- nothing before was a success, so that the last reading decides
    have hsuccess : (∃ e ∈ more ++ [⟨.server (.getRestore scope job), x⟩],
        IsSuccess scope job e) ↔ judge scope job seen x = .inl (Except.ok .succeeded) := by
      rw [judge_eq_succeeded_iff]
      constructor
      · rintro ⟨e, he, hsucceeded⟩
        rcases List.mem_append.mp he with hold | hnew
        · exact absurd hsucceeded (hmore e hold).2
        · rwa [List.mem_singleton.mp hnew] at hsucceeded
      · intro hsucceeded
        exact ⟨_, List.mem_append_right _ (List.mem_singleton_self _), hsucceeded⟩
    cases hjudge : judge scope job seen x with
    | inl outcome =>
        refine ⟨_, hhistory, hreadings, ?_⟩
        rw [hsuccess, hjudge]
        simp
    | inr seen' =>
        have hnone : ¬ ∃ e ∈ more ++ [⟨.server (.getRestore scope job), x⟩],
            IsSuccess scope job e := by
          rw [hsuccess, hjudge]
          simp
        refine ⟨⟨_, hhistory, ?_⟩, ⟨_, hhistory, hreadings, ?_⟩, ⟨_, hhistory, hreadings, ?_⟩⟩
        · intro e he
          exact ⟨hreadings e he, fun hsucceeded => hnone ⟨e, he, hsucceeded⟩⟩
        · exact iff_of_false (by simp) hnone
        · exact iff_of_false (by simp) hnone
  · exact ⟨[], by simp⟩

theorem ensures_await {returns : History Server → Outcome → Prop}
    {fails : History Server → Error → Prop} {scope job : String} {interval timeout : Duration}
    (hasks : ∀ more, asks (h ++ more) (.server (.getRestore scope job)))
    (hreturns : ∀ more outcome, (∀ e ∈ more, IsReading scope job e) →
      (outcome = .succeeded ↔ ∃ e ∈ more, IsSuccess scope job e) → returns (h ++ more) outcome)
    (hfails : ∀ more e, (∀ e ∈ more, IsReading scope job e) →
      (¬ ∃ e ∈ more, IsSuccess scope job e) → fails (h ++ more) e) :
    Operation.Ensures asks returns fails (await scope job interval timeout) h := by
  show Procedure.Ensures asks _ (Procedure.bind _ _) h
  rw [Procedure.ensures_bind]
  refine (ensures_follow hasks).mono (fun _ _ hr => hr) ?_
  rintro _ r ⟨more, hh, hmore, hsucceeded⟩
  rw [hh]
  cases r with
  | decided outcome =>
      cases outcome with
      | ok o => exact hreturns more o hmore (by simpa using hsucceeded)
      | error e => exact hfails more e hmore (by simpa using hsucceeded)
  | expired seen => exact hreturns more _ hmore (by simpa using hsucceeded)
  | cancelled => exact hreturns more _ hmore (by simpa using hsucceeded)

end Job
end PointInTime
