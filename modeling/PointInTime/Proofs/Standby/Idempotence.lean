import PointInTime.Proofs.Standby.Record

/-!
# A restored backup is not restored again

A cycle that restored a backup has recorded its identity.  Every later cycle that finds the same
backup to be the newest reads that record back, recognizes the backup, and leaves everything as it
is, whatever requests fail in between and wherever cycles are cut off.

The argument is about the record that is stored, so that it holds on a lossy server too.  What it
takes is that nobody else writes the record, and that no cycle in between recorded another backup.
The record has room for one backup: where a later one was restored in between and has gone since,
the earlier one is restored again.
-/

namespace PointInTime
namespace Standby

open Store

variable {s : Settings} {h log : History Server} {x y : Store}
variable {rest : Procedure Server (Except Error Outcome)} {n b : BackupRecord}
variable {t : TrackingRecord} {d : Demand} {a : d.Answer}

/-!
## A cycle that restored

The last thing it heard is that the record was written, so that the record is the identity of the
backup it selected.
-/

def IsUpToDate (s : Settings) (h : History Server) (x : Store) : Prop :=
  ∀ before scope name manager data,
    h = before ++ [⟨.server (.applyConfig scope name manager data), Except.ok ()⟩] →
      tracked s x = some (ConfigMap.toJson scope name data)

theorem isUpToDate_step (hasks : Asks s h d) (ha : LossyAnswers x d a y) :
    IsUpToDate s (h ++ [⟨d, a⟩]) y := by
  intro before scope name manager data heq
  obtain ⟨_, hlast⟩ := List.append_inj' heq rfl
  cases hlast
  obtain ⟨n, job, t, _, hwrite⟩ := hasks
  cases hwrite
  rw [ha.of_ok.2]
  exact configAt_perform_applyConfig _ _ _ _ x

theorem tracked_of_restored {others : Store → Store → Prop} {backup job : String}
    (hothers : ∀ x y, others x y → tracked s y = tracked s x)
    (pass : Procedure.Passes (lossy others) x (cycle s).run log y
      (.done (.ok (.restored backup job))))
    (hb : Selected s log b) :
    b.name = backup ∧ ∃ t, TrackingRecord.ofRecord? b = some t ∧
      tracked s y = some (recordOf s t) := by
  have hkeeps := passes_cycle_keeps (IsUpToDate s) ?_ ?_ pass ?_
  · obtain ⟨hrecord, n, r, t, before, hconfirmed, hname, _, hlog, _⟩ := hkeeps
    have hn : n = b := Option.some.inj (hconfirmed.selected.symm.trans hb)
    rw [hn] at hname hconfirmed
    exact ⟨hname, t, hconfirmed.identity, hrecord before _ _ _ _ hlog⟩
  · intro h x y hd hx before scope name manager data heq
    rw [hothers x y hd]
    exact hx before scope name manager data heq
  · intro h x d a y hasks ha _
    exact isUpToDate_step hasks ha
  · intro before scope name manager data heq
    simp at heq

/-!
## A cycle that finds the same backup
-/

/-- The record is an identity, and whoever read it has read just that; no job was submitted. -/
structure Settled (s : Settings) (t : TrackingRecord) (h : History Server) (x : Store) : Prop where
  tracked : tracked s x = some (recordOf s t)
  read : ∀ data : Option (Assoc String),
    (⟨.server (.getConfig s.targetScope (Name.forTracking s.targetCluster)), Except.ok data⟩ :
      Exchange Server) ∈ h → data = some t.toData
  nothingSubmitted : Never IsSubmission h

theorem Settled.not_submits {job : Restore} (hx : Settled s t h x)
    (ht : TrackingRecord.ofRecord? b = some t)
    (hsame : ∀ n, Selected s h n → TrackingRecord.SameIdentity n b) : ¬ Submits s h job := by
  intro hsubmits
  obtain ⟨n, hselected, ⟨data, hread, hother⟩, _⟩ := hsubmits.backup
  have hdata : data.bind TrackingRecord.ofData? = some t := by
    rw [hx.read data hread, Option.bind_some, TrackingRecord.ofData?_toData_of_identity ht]
  have hidentifies := (TrackingRecord.identifies_iff ht).mpr (hsame n hselected)
  rw [hother t hdata] at hidentifies
  cases hidentifies

theorem Settled.not_saves {r : Request} (hx : Settled s t h x) : ¬ Saves s h r := by
  rintro ⟨n, job, t', hconfirmed, _⟩
  obtain ⟨before, after, hh, _⟩ := hconfirmed.hasSucceeded
  have hmem : (⟨.server (.createRestore job), Except.ok ()⟩ : Exchange Server) ∈ h := by
    rw [hh]
    exact List.mem_append_right _ List.mem_cons_self
  exact hx.nothingSubmitted _ hmem ⟨job, rfl⟩

theorem Settled.step (hasks : Asks s h d) (ha : LossyAnswers x d a y) (hx : Settled s t h x)
    (ht : TrackingRecord.ofRecord? b = some t)
    (hsame : ∀ n, Selected s h n → TrackingRecord.SameIdentity n b) :
    Settled s t (h ++ [⟨d, a⟩]) y := by
  cases d with
  | stamp =>
      rw [ha.of_stamp]
      refine ⟨hx.tracked, ?_, ?_⟩
      · intro data hmem
        rcases List.mem_append.mp hmem with hold | hnew
        · exact hx.read data hold
        · cases List.mem_singleton.mp hnew
      · apply hx.nothingSubmitted.append
        exact never_singleton (not_isSubmission_of_ne fun _ hd => by cases hd)
  | server r =>
      have hr : r.isApplyConfig = false := by
        cases r with
        | applyConfig scope name manager data => exact absurd hasks hx.not_saves
        | _ => rfl
      refine ⟨(tracked_of_eq (ha.configs_eq hr)).trans hx.tracked, ?_, ?_⟩
      · intro data hmem
        rcases List.mem_append.mp hmem with hold | hnew
        · exact hx.read data hold
        · cases List.mem_singleton.mp hnew
          have hserved := ha.of_ok.1
          rw [perform_getConfig hx.tracked] at hserved
          exact (Except.ok.inj hserved).symm
      · apply hx.nothingSubmitted.append
        apply never_singleton
        rintro ⟨job, hd⟩
        cases hd
        exact hx.not_submits ht hsame hasks

theorem Settled.passes {others : Store → Store → Prop}
    (hothers : ∀ x y, others x y → Standby.tracked s y = Standby.tracked s x)
    (ht : TrackingRecord.ofRecord? b = some t)
    (hx : Standby.tracked s x = some (recordOf s t))
    (pass : Procedure.Passes (lossy others) x (cycle s).run log y rest)
    (hsame : ∀ n, Selected s log n → TrackingRecord.SameIdentity n b) :
    Settled s t log y ∧ Procedure.Ensures (Asks s) (Ends s) rest log := by
  -- what is selected in the end is not known before, so that the invariant is conditional
  have hkeeps := passes_cycle_keeps
    (fun h x => (∀ n, Selected s h n → TrackingRecord.SameIdentity n b) → Settled s t h x)
    ?_ ?_ pass ?_
  · exact ⟨hkeeps.1 hsame, hkeeps.2⟩
  · intro h x y hd hx hsame
    have hsettled := hx hsame
    exact ⟨(hothers x y hd).trans hsettled.tracked, hsettled.read, hsettled.nothingSubmitted⟩
  · intro h x d a y hasks ha hx hsame
    have hbefore (n : BackupRecord) (hn : Selected s h n) : TrackingRecord.SameIdentity n b :=
      hsame n (hn.append _)
    exact (hx hbefore).step hasks ha ht hbefore
  · intro _
    exact ⟨hx, fun _ hmem => (by cases hmem), fun _ hmem => (by cases hmem)⟩

/-!
## Later cycles
-/

/-- A cycle had another backup recorded: it selected one that is not like this one, and the record
that it left is not the one that it found. -/
structure RecordsOther (s : Settings) (b : BackupRecord) (ep : Episode Store) : Prop where
  selected : ∃ n, Selected s ep.log n ∧ ¬ TrackingRecord.SameIdentity n b
  recorded : tracked s ep.stop ≠ tracked s ep.start

theorem tracked_of_runs {others : Store → Store → Prop} {past : List (Episode Store)}
    (hothers : ∀ x y, others x y → tracked s y = tracked s x)
    (ht : TrackingRecord.ofRecord? b = some t) (hx : tracked s x = some (recordOf s t))
    (run : Runs (lossy others) s x past y) (hpast : ∀ ep ∈ past, ¬ RecordsOther s b ep) :
    tracked s y = some (recordOf s t) := by
  induction run with
  | start => exact hx
  | @episode y z past log rest _ pass ih =>
      have hy := ih fun ep hep => hpast ep (List.mem_append_left _ hep)
      have hlast := hpast _ (List.mem_append_right _ (List.mem_singleton_self _))
      by_cases hsame : ∀ n, Selected s log n → TrackingRecord.SameIdentity n b
      · exact (Settled.passes hothers ht hy pass hsame).1.tracked
      · have hdiffers : ∃ n, Selected s log n ∧ ¬ TrackingRecord.SameIdentity n b := by
          simpa using hsame
        have hleft : tracked s z = tracked s y :=
          Classical.byContradiction fun hchanged => hlast ⟨hdiffers, hchanged⟩
        exact hleft.trans hy

theorem restored_backup_not_restored_again {others : Store → Store → Prop}
    {before after here now : Store} {first log : History Server} {backup job : String}
    {between : List (Episode Store)}
    (hothers : ∀ x y, others x y → tracked s y = tracked s x)
    (restoring : Procedure.Passes (lossy others) before (cycle s).run first after
      (.done (.ok (.restored backup job))))
    (hb : Selected s first b)
    (run : Runs (lossy others) s after between here)
    (hbetween : ∀ ep ∈ between, ¬ RecordsOther s b ep)
    (pass : Procedure.Passes (lossy others) here (cycle s).run log now rest)
    (hsame : ∀ n, Selected s log n → TrackingRecord.SameIdentity n b) :
    b.name = backup ∧ Never IsSubmission log ∧
      (∀ job next, rest ≠ .ask (.server (.createRestore job)) next) ∧
      tracked s now = tracked s after := by
  obtain ⟨hname, t, ht, hafter⟩ := tracked_of_restored hothers restoring hb
  have hhere := tracked_of_runs hothers ht hafter run hbetween
  obtain ⟨hnow, hrest⟩ := Settled.passes hothers ht hhere pass hsame
  refine ⟨hname, hnow.nothingSubmitted, ?_, hnow.tracked.trans hafter.symm⟩
  rintro job next rfl
  exact hnow.not_submits ht hsame hrest.1

/-!
### A backup and a later one
-/

def exampleFirst : BackupRecord where
  name := "b1"
  cluster := "c1"
  state := .succeeded
  completedAt := Instant.ofUnix? 1735689600 0
  destination := some "s3://b/b1"
  storageName := some "s3"
  archivesLogs := false
  latestRestorableTime := none

theorem sameIdentity_of_selected {h : History Server} (hh : Selected s h b) (n : BackupRecord)
    (hn : Selected s h n) : TrackingRecord.SameIdentity n b := by
  rw [Option.some.inj (hn.symm.trans hh)]
  exact ⟨rfl, rfl⟩

/-- After the first backup was restored, two more cycles find it again and do nothing. -/
theorem first_backup_not_restored_again :
    let after := (exampleCycle exampleOperator exampleStore).2.2
    let here := (exampleCycle id after).2.2
    Never IsSubmission (exampleLog id here) ∧
      tracked exampleSettings (exampleCycle id here).2.2 = tracked exampleSettings after := by
  intro after here
  have hfirst : Selected exampleSettings (exampleLog exampleOperator exampleStore)
      exampleFirst := by
    unfold Selected
    decide +kernel
  have hsecond : Selected exampleSettings (exampleLog id after) exampleFirst := by
    unfold Selected
    decide +kernel
  have hthird : Selected exampleSettings (exampleLog id here) exampleFirst := by
    unfold Selected
    decide +kernel
  have hpass (turn : Store → Store) (hturn : ∀ x, (turn x).configs = x.configs) (x : Store) :=
    passes_lossy (passes_exampleCycle (fun x y => y.configs = x.configs) turn
      (fun x => Or.inr (hturn x)) x)
  have hrestoring := hpass exampleOperator (fun _ => rfl) exampleStore
  rw [exampleCycle_restored] at hrestoring
  have hrun := Runs.episode (Runs.start after) (hpass id (fun _ => rfl) after)
  have hbetween (ep : Episode Store) (hlog : ep.log = exampleLog id after) :
      ¬ RecordsOther exampleSettings exampleFirst ep := by
    intro hother
    rcases hother.selected with ⟨n, hn, hdiffers⟩
    rw [hlog] at hn
    exact hdiffers (sameIdentity_of_selected hsecond n hn)
  rcases restored_backup_not_restored_again (fun _ _ => tracked_of_eq) hrestoring hfirst hrun
    (fun ep hep => hbetween ep (by rw [List.mem_singleton.mp hep]))
    (hpass id (fun _ => rfl) here) (sameIdentity_of_selected hthird) with
    ⟨_, hnever, _, htracked⟩
  exact ⟨hnever, htracked⟩

/-- A later backup of the same cluster. -/
def exampleLaterBackup : Json :=
  .obj
    [("metadata", .obj [("name", .str "b2"), ("namespace", .str "prod")]),
      ("spec", .obj [("pxcCluster", .str "c1"), ("storageName", .str "s3")]),
      ("status", .obj
        [("state", .str "Succeeded"), ("completed", .str "2025-01-02T00:00:00Z"),
          ("destination", .str "s3://b/b2")])]

/-- Others see to it that the source has these backups, and that every job succeeds. -/
def providing (backups : List Json) (x : Store) : Store :=
  exampleOperator { x with backups := backups }

def providedCycle (backups : List Json) (nonce : String) (x : Store) :
    Except Error Outcome × Clock × Store :=
  Procedure.run (Store.serving (providing backups) ⟨.epoch, nonce⟩) (cycle exampleSettings).run {} x

def providedLog (backups : List Json) (nonce : String) (x : Store) : History Server :=
  Procedure.exchanges (Store.serving (providing backups) ⟨.epoch, nonce⟩)
    (cycle exampleSettings).run {} x

/-- The source shows the first backup, then a later one instead, and then the first one again, which
is restored each time that it is shown, though nobody else wrote the record. -/
theorem first_backup_restored_again :
    ¬ ∀ (s : Settings) (others : Store → Store → Prop) (before after here now : Store)
        (first log : History Server) (backup job : String) (b : BackupRecord)
        (between : List (Episode Store)) (rest : Procedure Server (Except Error Outcome)),
      (∀ x y, others x y → tracked s y = tracked s x) →
      Procedure.Passes (lossy others) before (cycle s).run first after
        (.done (.ok (.restored backup job))) →
      Selected s first b → Runs (lossy others) s after between here →
      Procedure.Passes (lossy others) here (cycle s).run log now rest →
      (∀ n, Selected s log n → TrackingRecord.SameIdentity n b) →
      Never IsSubmission log ∧ tracked s now = tracked s after := by
  intro hall
  let after := (exampleCycle exampleOperator exampleStore).2.2
  let here := (providedCycle [exampleLaterBackup] "efgh" after).2.2
  have hpass (backups : List Json) (nonce : String) (x : Store) :
      Procedure.Passes (lossy fun x y => y.configs = x.configs) x (cycle exampleSettings).run
        (providedLog backups nonce x) (providedCycle backups nonce x).2.2
        (.done (providedCycle backups nonce x).1) := by
    have hturn (y : Store) :
        providing backups y = y ∨ (providing backups y).configs = y.configs := Or.inr rfl
    exact passes_lossy (passes_serving hturn ⟨.epoch, nonce⟩ _ {} x)
  have hrestoring := passes_lossy (passes_exampleCycle (fun x y => y.configs = x.configs)
    exampleOperator (fun _ => Or.inr rfl) exampleStore)
  rw [exampleCycle_restored] at hrestoring
  have hfirst : Selected exampleSettings (exampleLog exampleOperator exampleStore)
      exampleFirst := by
    unfold Selected
    decide +kernel
  have hagain : Selected exampleSettings (providedLog [exampleBackup] "ijkl" here)
      exampleFirst := by
    unfold Selected
    decide +kernel
  have hnever := (hall exampleSettings _ _ after here _ _ _ _ _ _ _ _
    (fun _ _ => tracked_of_eq) hrestoring hfirst
    (Runs.episode (Runs.start after) (hpass [exampleLaterBackup] "efgh" after))
    (hpass [exampleBackup] "ijkl" here) (sameIdentity_of_selected hagain)).1
  have hsubmitted : ¬ Never IsSubmission (providedLog [exampleBackup] "ijkl" here) := by
    decide +kernel
  exact hsubmitted hnever

end Standby
end PointInTime
