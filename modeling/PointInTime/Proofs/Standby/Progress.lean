import PointInTime.Proofs.Catalog.Newest
import PointInTime.Proofs.Server.Backups
import PointInTime.Proofs.Standby.Runs
import PointInTime.Proofs.Standby.Tracking

/-!
# The record never goes back

The newest backup is chosen when the catalog is read and recorded when its job has succeeded, which
may be much later, and a listing that fails shows nothing.  As long as the source keeps the backups
that a standby can be brought to, every later choice is at least as late nevertheless: whoever is
recorded was listed, is there for good, and is listed again by whoever chooses next.

Main statement: the times that a run saves never decrease.
-/

namespace PointInTime
namespace Standby

open Store

/-!
## What a source keeps
-/

/-- A backup of the source that the standby follows. -/
def Follows (s : Settings) (x : Store) (b : Backup) : Prop :=
  x.HoldsBackup s.sourceScope b ∧ b.Qualifies s.sourceCluster

/-- Others may add backups that are followed, but none of them disappears or changes. -/
def SourceGrows (s : Settings) (x y : Store) : Prop :=
  ∀ b, Follows s x b → ∃ b', Follows s y b' ∧ b'.metadata.name = b.metadata.name ∧
    b'.completed? = b.completed? ∧
    (b'.status.getD {}).destination = (b.status.getD {}).destination

/-- A followed backup was completed by the end of the second that an instant lies in, or later. -/
def Reaches (s : Settings) (x : Store) (t : Instant) : Prop :=
  ∃ b, Follows s x b ∧ ∃ u, b.completed? = some u ∧ t ≤ u.truncate

variable {s : Settings} {h log : History Server} {x y : Store} {t : Instant}
variable {n : BackupRecord} {d : Demand} {a : d.Answer}

theorem sourceGrows_of_prefix {more : List Json} (h : y.backups = x.backups ++ more) :
    SourceGrows s x y := by
  intro b hb
  rcases hb with ⟨⟨j, hj, hread⟩, hqualifies⟩
  refine ⟨b, ⟨⟨j, ?_, hread⟩, hqualifies⟩, rfl, rfl, rfl⟩
  rw [inScope, h, List.filter_append]
  exact List.mem_append_left _ hj

theorem Reaches.grows (hx : Reaches s x t) (hgrows : SourceGrows s x y) : Reaches s y t := by
  rcases hx with ⟨b, hfollows, u, hcompleted, hle⟩
  rcases hgrows b hfollows with ⟨b', hfollows', -, hcompleted', -⟩
  exact ⟨b', hfollows', u, hcompleted'.trans hcompleted, hle⟩

theorem Reaches.of_eq (hx : Reaches s x t) (h : y.backups = x.backups) : Reaches s y t := by
  rcases hx with ⟨b, ⟨hheld, hqualifies⟩, u, hcompleted, hle⟩
  exact ⟨b, ⟨(holdsBackup_of_eq h).mpr hheld, hqualifies⟩, u, hcompleted, hle⟩

/-!
## What is saved
-/

def configWrite? : Exchange Server → Option Request
  | ⟨.server r, _⟩ => if r.isApplyConfig then some r else none
  | ⟨.stamp, _⟩ => none

/-- The configurations that were to be written, whatever came of it. -/
def configWrites (h : History Server) : List Request :=
  h.filterMap configWrite?

theorem configWrites_append (h more : History Server) :
    configWrites (h ++ more) = configWrites h ++ configWrites more :=
  List.filterMap_append

theorem saves_of_configWrite? {r : Request} (hasks : Asks s h d)
    (hr : configWrite? ⟨d, a⟩ = some r) : Saves s h r := by
  cases d with
  | stamp => cases hr
  | server r' =>
      cases r' with
      | applyConfig scope name manager data =>
          cases hr
          exact hasks
      | _ => cases hr

theorem Confirmed.unique {job job' : Restore} {n' : BackupRecord} {t t' : TrackingRecord}
    (hc : Confirmed s h n job t) (hc' : Confirmed s h n' job' t') : t = t' := by
  have hn : n = n' := Option.some.inj (hc.selected.symm.trans hc'.selected)
  subst hn
  exact Option.some.inj (hc.identity.symm.trans hc'.identity)

/-- A cycle saves one record at most, as often as it has to. -/
theorem configWrites_of_cycle {σ : Type} {E : Surroundings Server σ} {x y : σ}
    {rest : Procedure Server (Except Error Outcome)}
    (pass : Procedure.Passes E x (cycle s).run log y rest) :
    configWrites log = [] ∨ ∃ n job t k, Confirmed s log n job t ∧
      configWrites log =
        List.replicate k (TrackingRecord.write s.targetScope s.targetCluster t) := by
  have hkeeps := passes_cycle_keeps
    (fun h _ => ∀ r ∈ configWrites h, Saves s h r) (fun _ _ _ _ hsaves => hsaves) ?_ pass ?_
  · cases hwrites : configWrites log with
    | nil => exact Or.inl rfl
    | cons r more =>
        rw [hwrites] at hkeeps
        rcases hkeeps.1 r List.mem_cons_self with ⟨n, job, t, hconfirmed, hr⟩
        refine Or.inr ⟨n, job, t, (r :: more).length, hconfirmed, ?_⟩
        rw [List.eq_replicate_iff]
        constructor
        · rfl
        · intro r' hr'
          rcases hkeeps.1 r' hr' with ⟨n', job', t', hconfirmed', hrecord⟩
          rw [hrecord, hconfirmed.unique hconfirmed']
  · intro h x d a y hasks _ hsaves r hr
    rw [configWrites_append] at hr
    rcases List.mem_append.mp hr with hold | hnew
    · exact Saves.append (hsaves r hold) _
    · rcases List.mem_filterMap.mp hnew with ⟨e, he, hsaved⟩
      rw [List.mem_singleton.mp he] at hsaved
      exact (saves_of_configWrite? hasks hsaved).append _
  · intro r hr
    cases hr

/-!
## The choice of a cycle
-/

/-- What holds at every moment of a cycle, given what was saved before it. -/
structure Current (s : Settings) (saved : List TrackingRecord) (h : History Server) (x : Store) :
    Prop where
  reached : ∀ t ∈ saved, Reaches s x t.completedAt
  ofSource : ∀ scope (outcome : Except Error (List Backup)),
    (⟨.server (.listBackups scope), outcome⟩ : Exchange Server) ∈ h → scope = s.sourceScope
  notBefore : ∀ backups : List Backup, Heard h (.listBackups s.sourceScope) backups → ∀ t ∈ saved,
    ∃ b ∈ backups, b.Qualifies s.sourceCluster ∧
      ∃ u, b.completed? = some u ∧ t.completedAt ≤ u.truncate
  lasting : ∀ backups : List Backup, Heard h (.listBackups s.sourceScope) backups →
    ∀ b ∈ backups, b.Qualifies s.sourceCluster → ∀ u, b.completed? = some u →
      Reaches s x u.truncate

variable {saved : List TrackingRecord}

theorem Current.grows (hx : Current s saved h x) (hgrows : SourceGrows s x y) :
    Current s saved h y where
  reached t ht := (hx.reached t ht).grows hgrows
  ofSource := hx.ofSource
  notBefore := hx.notBefore
  lasting backups hheard b hb hqualifies u hu :=
    (hx.lasting backups hheard b hb hqualifies u hu).grows hgrows

theorem Current.step (hasks : Asks s h d) (ha : UnreliableAnswers x d a y)
    (hx : Current s saved h x) : Current s saved (h ++ [⟨d, a⟩]) y where
  reached t ht := (hx.reached t ht).of_eq ha.backups_eq
  ofSource := by
    intro scope outcome hmem
    rcases List.mem_append.mp hmem with hold | hnew
    · exact hx.ofSource scope outcome hold
    · cases List.mem_singleton.mp hnew
      exact hasks.1
  notBefore := by
    intro backups hheard
    rcases List.mem_append.mp hheard with hold | hnew
    · exact hx.notBefore backups hold
    · cases List.mem_singleton.mp hnew
      intro t ht
      rcases hx.reached t ht with ⟨b, ⟨hheld, hqualifies⟩, u, hcompleted, hle⟩
      have hmem : b ∈ backups := (mem_listed_iff ha.tells.listBackups).mpr hheld
      exact ⟨b, hmem, hqualifies, u, hcompleted, hle⟩
  lasting := by
    intro backups hheard b hb hqualifies u hu
    rcases List.mem_append.mp hheard with hold | hnew
    · exact (hx.lasting backups hold b hb hqualifies u hu).of_eq ha.backups_eq
    · cases List.mem_singleton.mp hnew
      have hheld : x.HoldsBackup s.sourceScope b := (mem_listed_iff ha.tells.listBackups).mp hb
      have hreaches : Reaches s x u.truncate :=
        ⟨b, ⟨hheld, hqualifies⟩, u, hu, Instant.le_refl _⟩
      exact hreaches.of_eq ha.backups_eq

theorem Current.passes {others : Store → Store → Prop}
    {rest : Procedure Server (Except Error Outcome)}
    (hothers : ∀ x y, others x y → SourceGrows s x y)
    (pass : Procedure.Passes (unreliable others) x (cycle s).run log y rest)
    (hx : ∀ t ∈ saved, Reaches s x t.completedAt) : Current s saved log y := by
  have hstart : Current s saved [] x := by
    constructor
    · exact hx
    · intro scope outcome hmem
      cases hmem
    · intro backups hheard
      cases hheard
    · intro backups hheard
      cases hheard
  refine (passes_cycle_keeps (Current s saved) ?_ ?_ pass hstart).1
  · intro h x y hd hx
    exact hx.grows (hothers x y hd)
  · intro h x d a y hasks ha hx
    exact hx.step hasks ha

/-- What is saved is as late as all that was saved before, and is there for good. -/
theorem Current.confirmed {job : Restore} {t : TrackingRecord} (hx : Current s saved h x)
    (hc : Confirmed s h n job t) :
    (∀ t' ∈ saved, t'.completedAt ≤ t.completedAt) ∧ Reaches s x t.completedAt := by
  rcases hc.selected.heard hx.ofSource with ⟨backups, clusters, hheard, hnewest⟩
  rcases Catalog.isNewest_of_newestOf hnewest with ⟨b, hb, rfl⟩
  have hcompleted : b.completed?.map Instant.truncate = some t.completedAt :=
    (TrackingRecord.ofRecord?_eq_some hc.identity).1
  rcases Option.map_eq_some_iff.mp hcompleted with ⟨u, hu, htime⟩
  rw [← htime]
  constructor
  · intro t' ht'
    rcases hx.notBefore backups hheard t' ht' with ⟨b', hb', hqualifies', u', hu', hle⟩
    rcases hb.notLater hb' hqualifies' u' hu' with ⟨v, hv, huv⟩
    have hsame : v = u := Option.some.inj (hv.symm.trans hu)
    rw [hsame] at huv
    exact Instant.le_trans hle (Instant.truncate_le_truncate huv)
  · exact hx.lasting backups hheard b hb.mem hb.qualifies u hu

/-!
## Whole runs
-/

/-- The records that were saved one after the other, and the store that they were saved in. -/
structure Advanced (s : Settings) (log : History Server) (saved : List TrackingRecord)
    (x : Store) : Prop where
  writes : configWrites log =
    saved.map (TrackingRecord.write s.targetScope s.targetCluster)
  readBack : ∀ t ∈ saved, TrackingRecord.ofData? t.toData = some t
  ordered : saved.Pairwise fun t t' => t.completedAt ≤ t'.completedAt
  reached : ∀ t ∈ saved, Reaches s x t.completedAt

theorem Advanced.cycle {others : Store → Store → Prop} {past : History Server}
    {rest : Procedure Server (Except Error Outcome)}
    (hothers : ∀ x y, others x y → SourceGrows s x y) (hx : Advanced s past saved x)
    (pass : Procedure.Passes (unreliable others) x (cycle s).run log y rest) :
    ∃ more, Advanced s (past ++ log) (saved ++ more) y := by
  have hcurrent := Current.passes hothers pass hx.reached
  rcases configWrites_of_cycle pass with hnone | ⟨n, job, t, k, hconfirmed, hwrites⟩
  · refine ⟨[], ?_⟩
    rw [List.append_nil]
    constructor
    · rw [configWrites_append, hnone, List.append_nil]
      exact hx.writes
    · exact hx.readBack
    · exact hx.ordered
    · exact hcurrent.reached
  · rcases hcurrent.confirmed hconfirmed with ⟨hlatest, hreached⟩
    refine ⟨List.replicate k t, ?_⟩
    constructor
    · rw [configWrites_append, hwrites, hx.writes, List.map_append, List.map_replicate]
    · intro t' ht'
      rcases List.mem_append.mp ht' with hold | hnew
      · exact hx.readBack t' hold
      · rw [(List.mem_replicate.mp hnew).2]
        exact TrackingRecord.ofData?_toData_of_identity hconfirmed.identity
    · rw [List.pairwise_append, List.pairwise_replicate]
      refine ⟨hx.ordered, Or.inr (Instant.le_refl _), ?_⟩
      intro t' ht' t'' ht''
      rw [(List.mem_replicate.mp ht'').2]
      exact hlatest t' ht'
    · intro t' ht'
      rcases List.mem_append.mp ht' with hold | hnew
      · exact hcurrent.reached t' hold
      · rw [(List.mem_replicate.mp hnew).2]
        exact hreached

theorem saved_times_never_decrease {others : Store → Store → Prop}
    (hothers : ∀ x y, others x y → SourceGrows s x y)
    (run : IsRun (unreliable others) s x log y) :
    ∃ saved : List TrackingRecord,
      configWrites log = saved.map (TrackingRecord.write s.targetScope s.targetCluster) ∧
      (∀ t ∈ saved, TrackingRecord.ofData? t.toData = some t) ∧
      saved.Pairwise fun t t' => t.completedAt ≤ t'.completedAt := by
  rcases run with ⟨episodes, hruns, rfl⟩
  have hadvanced : ∃ saved, Advanced s (episodes.map Episode.log).flatten saved y := by
    induction hruns with
    | start =>
        refine ⟨[], ?_⟩
        constructor <;> simp [configWrites]
    | episode _ pass ih =>
        rcases ih with ⟨saved, hsaved⟩
        rcases hsaved.cycle hothers pass with ⟨more, hmore⟩
        refine ⟨saved ++ more, ?_⟩
        simpa using hmore
  rcases hadvanced with ⟨saved, hsaved⟩
  exact ⟨saved, hsaved.writes, hsaved.readBack, hsaved.ordered⟩

/-- The first backup is restored, its record is lost, and the next cycle restores it again. -/
theorem saved_times_of_lost_record :
    ∃ (log : History Server) (now : Store) (saved : List TrackingRecord),
      IsRun (unreliable (SourceGrows exampleSettings)) exampleSettings exampleStore log now ∧
      configWrites log = saved.map (TrackingRecord.write "standby" "standby1") ∧
      saved.length = 2 ∧ saved.Pairwise fun t t' => t.completedAt ≤ t'.completedAt := by
  let first := (exampleCycle exampleOperator exampleStore).2.2
  let second : Store := { first with configs := [] }
  let stamp : Stamp := ⟨.epoch, "efgh"⟩
  have hsame (x y : Store) (h : y.backups = x.backups) : SourceGrows exampleSettings x y :=
    sourceGrows_of_prefix (h.trans (List.append_nil x.backups).symm)
  have hturn (x : Store) :
      exampleOperator x = x ∨ SourceGrows exampleSettings x (exampleOperator x) :=
    Or.inr (hsame x (exampleOperator x) rfl)
  have hfirst := passes_unreliable (passes_lossy (passes_exampleCycle _ exampleOperator hturn
    exampleStore))
  have hsecond := passes_unreliable (passes_lossy (passes_serving hturn stamp
    (cycle exampleSettings).run {} second))
  have run := (isRun_of_passes_cycle hfirst).append
    (isRun_of_passes_cycle (Procedure.Passes.drift (hsame first second rfl) hsecond))
  rcases saved_times_never_decrease (fun _ _ => id) run with ⟨saved, hwrites, -, hordered⟩
  refine ⟨_, _, saved, run, hwrites, ?_, hordered⟩
  have hlength := congrArg List.length hwrites
  rw [List.length_map] at hlength
  rw [← hlength]
  decide +kernel

end Standby
end PointInTime
