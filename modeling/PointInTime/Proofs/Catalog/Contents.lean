import Mathlib.Data.List.Induction
import Mathlib.Data.List.Pairwise
import PointInTime.Proofs.Catalog.Newest

/-!
# What the catalog holds

The catalog is made from two lists as the server gives them.  It holds a record of every backup,
newest first, and what can be restored from is picked out of it.  Sorting is stable, so the order of
the server decides between backups that were completed at once, and between no others.

Main statement: the catalog loses no backup, the newest that it answers is one that no other was
completed after, and where all were completed at different times the order in which the server lists
them does not matter.
-/

namespace PointInTime
namespace Catalog

open Backup

/-!
## Sorting
-/

section

variable {α : Type} {le : α → α → Bool} {P : α → Bool}

/-- Elements of a kind keep their order if any of them may stand before any other. -/
theorem filter_mergeSort_of_ties
    (trans : ∀ a b c, le a b = true → le b c = true → le a c = true)
    (total : ∀ a b, (le a b || le b a) = true)
    (hties : ∀ a b, P a = true → P b = true → le a b = true) (l : List α) :
    (l.mergeSort le).filter P = l.filter P := by
  have hsorted : (l.filter P).Pairwise fun a b => le a b = true := by
    apply List.pairwise_of_forall_mem_list
    intro a ha b hb
    exact hties a b (List.mem_filter.mp ha).2 (List.mem_filter.mp hb).2
  have hkept : (l.filter P).Sublist (l.mergeSort le) :=
    List.sublist_mergeSort trans total hsorted List.filter_sublist
  have hchosen : (l.filter P).Sublist ((l.mergeSort le).filter P) := by
    simpa only [List.filter_filter, Bool.and_self] using hkept.filter P
  have hlength : (l.filter P).length = ((l.mergeSort le).filter P).length :=
    ((List.mergeSort_perm l le).symm.filter P).length_eq
  exact (hchosen.eq_of_length hlength).symm

end

/-!
## The flag of a cluster
-/

/-- The flag that a backup gets from the cluster it belongs to: that of the last cluster of its
name, and none if the cluster is gone. -/
inductive IsFlagOf (clusters : List Cluster) (name : String) : Bool → Prop where
  | listed {before after : List Cluster} {c : Cluster} :
      clusters = before ++ c :: after → c.name = name → (∀ c' ∈ after, c'.name ≠ name) →
        IsFlagOf clusters name c.archivesLogs
  | gone : (∀ c ∈ clusters, c.name ≠ name) → IsFlagOf clusters name false

/-- By induction from the end, where the last word is. -/
theorem isFlagOf_archivesLogs (clusters : List Cluster) (name : String) :
    IsFlagOf clusters name (archivesLogs clusters name) := by
  induction clusters using List.reverseRecOn with
  | nil => exact .gone fun c hc => nomatch hc
  | append_singleton clusters c ih =>
      rw [archivesLogs_concat]
      by_cases hc : c.name = name
      · rw [if_pos hc]
        exact .listed rfl hc fun c' hc' => nomatch hc'
      · rw [if_neg hc]
        have hother {after : List Cluster} (hafter : ∀ c' ∈ after, c'.name ≠ name) :
            ∀ c' ∈ after ++ [c], c'.name ≠ name := by
          intro c' hc'
          rcases List.mem_append.mp hc' with hbefore | hlast
          · exact hafter c' hbefore
          · rw [List.mem_singleton.mp hlast]
            exact hc
        generalize archivesLogs clusters name = flag at ih ⊢
        cases ih with
        | @listed before after c' hsplit hname hafter =>
            have hlonger : clusters ++ [c] = before ++ c' :: (after ++ [c]) := by
              rw [hsplit, List.append_assoc, List.cons_append]
            exact .listed hlonger hname (hother hafter)
        | gone hgone => exact .gone (hother hgone)

/-!
## All records
-/

variable {backups backups' : List Backup} {clusters : List Cluster} {cluster : Option String}

/-- Of every listed backup one record, newest first; those that were completed at once, or were
never completed, as they are listed. -/
structure IsCatalog (backups : List Backup) (clusters : List Cluster)
    (rs : List BackupRecord) : Prop where
  perm : rs.Perm (backups.map (recordIn clusters))
  newestFirst : rs.Pairwise fun a b =>
    ∀ t, b.completedAt = some t → ∃ u, a.completedAt = some u ∧ t ≤ u
  inTurn : ∀ t : Option Instant, rs.filter (·.completedAt = t) =
    (backups.map (recordIn clusters)).filter (·.completedAt = t)

theorem isCatalog_records (backups : List Backup) (clusters : List Cluster) :
    IsCatalog backups clusters (records backups clusters) where
  perm := List.mergeSort_perm _ _
  newestFirst := by
    apply (pairwise_records backups clusters).imp
    intro a b hle t ht
    cases ha : a.completedAt with
    | none =>
        unfold BackupRecord.notOlder at hle
        rw [ha, ht] at hle
        cases hle
    | some u => exact ⟨u, rfl, BackupRecord.le_of_notOlder ha ht hle⟩
  inTurn := by
    intro t
    apply filter_mergeSort_of_ties BackupRecord.notOlder_trans BackupRecord.notOlder_total
    intro a b ha hb
    unfold BackupRecord.notOlder
    rw [of_decide_eq_true ha, of_decide_eq_true hb]
    cases t with
    | none => rfl
    | some u => exact decide_eq_true (Instant.le_refl u)

/-- No two backups of a kind were completed at once, and at most one of them was never completed. -/
def CompletedApart (P : Backup → Prop) (backups : List Backup) : Prop :=
  backups.Pairwise fun a b => P a → P b → a.completed? ≠ b.completed?

theorem CompletedApart.eq {P : Backup → Prop} (hapart : CompletedApart P backups) {a b : Backup}
    (ha : a ∈ backups) (hb : b ∈ backups) (hPa : P a) (hPb : P b) (hab : a.NotLater b)
    (hba : b.NotLater a) : a = b := by
  have : Std.Symm fun a b : Backup => P a → P b → a.completed? ≠ b.completed? :=
    ⟨fun _ _ hne hPb hPa => (hne hPa hPb).symm⟩
  by_contra hne
  exact hapart.forall ha hb hne hPa hPb (completed?_eq_of_notLater hab hba)

theorem records_eq_of_perm (hperm : backups'.Perm backups)
    (hapart : CompletedApart (fun _ => True) backups) :
    records backups' clusters = records backups clusters := by
  have hrecords : (records backups' clusters).Perm (records backups clusters) :=
    (isCatalog_records backups' clusters).perm.trans
      ((hperm.map _).trans (isCatalog_records backups clusters).perm.symm)
  apply hrecords.eq_of_pairwise _ (pairwise_records backups' clusters)
    (pairwise_records backups clusters)
  intro r r' hr hr' hle hle'
  rcases mem_records.mp hr with ⟨a, ha, rfl⟩
  rcases mem_records.mp hr' with ⟨b, hb, rfl⟩
  have hsame : a = b := hapart.eq (hperm.mem_iff.mp ha) hb trivial trivial
    ((notOlder_recordIn clusters b a).mp hle') ((notOlder_recordIn clusters a b).mp hle)
  rw [hsame]

/-!
## The newest record
-/

/-- What is found for a cluster, or for all of them: a record of the newest backup, the first of
several in the list, and nothing only where no backup qualifies. -/
structure Finds (backups : List Backup) (clusters : List Cluster) (cluster : Option String)
    (found : Option BackupRecord) : Prop where
  none_iff : found = none ↔ ∀ b ∈ backups, ¬ b.Qualifies cluster
  newest : ∀ r ∈ found, ∃ b, IsNewest backups cluster b ∧ r = recordIn clusters b ∧
    ∀ b' ∈ backups, b'.Qualifies cluster → b'.NotLater b

theorem finds_newestOf (backups : List Backup) (clusters : List Cluster)
    (cluster : Option String) :
    Finds backups clusters cluster (newestOf backups clusters cluster) := by
  have hnewest : ∀ r ∈ newestOf backups clusters cluster, ∃ b, IsNewest backups cluster b ∧
      r = recordIn clusters b ∧ ∀ b' ∈ backups, b'.Qualifies cluster → b'.NotLater b := by
    intro r hr
    rcases isNewest_of_newestOf hr with ⟨b, hb, hrecord⟩
    exact ⟨b, hb, hrecord, fun b' => hb.notLater⟩
  constructor
  · constructor
    · intro hnone b hb
      exact not_qualifies_of_newestOf hnone hb
    · intro hempty
      by_contra hsome
      rcases Option.ne_none_iff_exists'.mp hsome with ⟨r, hr⟩
      rcases hnewest r hr with ⟨b, hb, _⟩
      exact hempty b hb.mem hb.qualifies
  · exact hnewest

theorem newestOf_eq_of_perm (hperm : backups'.Perm backups)
    (hapart : CompletedApart (Qualifies cluster) backups) :
    newestOf backups' clusters cluster = newestOf backups clusters cluster := by
  have hfinds := finds_newestOf backups clusters cluster
  have hfinds' := finds_newestOf backups' clusters cluster
  cases hfound : newestOf backups clusters cluster with
  | none =>
      apply hfinds'.none_iff.mpr
      intro b hb
      exact hfinds.none_iff.mp hfound b (hperm.mem_iff.mp hb)
  | some r =>
      rcases hfinds.newest r hfound with ⟨b, hb, rfl, hlast⟩
      have hlisted : b ∈ backups' := hperm.mem_iff.mpr hb.mem
      cases hfound' : newestOf backups' clusters cluster with
      | none => exact absurd hb.qualifies (hfinds'.none_iff.mp hfound' b hlisted)
      | some r' =>
          rcases hfinds'.newest r' hfound' with ⟨b', hb', rfl, hlast'⟩
          have hlisted' : b' ∈ backups := hperm.mem_iff.mp hb'.mem
          have hsame : b' = b := hapart.eq hlisted' hb.mem hb'.qualifies hb.qualifies
            (hlast b' hlisted' hb'.qualifies) (hlast' b hlisted hb.qualifies)
          rw [hsame]

/-!
## What a server is asked
-/

section

variable {σ : Type} {answer : (d : Server.Request) → σ → Server.Answer d × σ} {s : σ}
variable {scope : String}

/-- What a server answers when the backups and then the clusters of a namespace are listed. -/
structure Lists (answer : (d : Server.Request) → σ → Server.Answer d × σ) (s : σ) (scope : String)
    (backups : List Backup) (clusters : List Cluster) : Prop where
  backups_eq : (answer (.server (.listBackups scope)) s).1 = Except.ok backups
  clusters_eq : (answer (.server (.listClusters scope))
    (answer (.server (.listBackups scope)) s).2).1 = Except.ok clusters

theorem run_send (r : Request) (c : Clock) (s : σ) :
    Procedure.run answer (Operation.send r).run c s =
      ((answer (.server r) s).1, c, (answer (.server r) s).2) := rfl

theorem result_listAll (hlists : Lists answer s scope backups clusters) (c : Clock) :
    (Procedure.run answer (listAll scope) c s).1 = records backups clusters := by
  have hfirst : Procedure.run answer (Operation.listBackups scope).run c s =
      (Except.ok backups, c, (answer (.server (.listBackups scope)) s).2) := by
    rw [← hlists.backups_eq]
    exact run_send (.listBackups scope) c s
  have hsecond : (Procedure.run answer (Operation.listClusters scope).run c
      (answer (.server (.listBackups scope)) s).2).1 = Except.ok clusters :=
    hlists.clusters_eq
  unfold listAll
  rw [Procedure.bind_eq_bind, Procedure.run_bind, hfirst]
  cases backups with
  | nil =>
      rw [records_nil]
      rfl
  | cons b rest =>
      show (Procedure.run answer (Procedure.bind (Operation.listClusters scope).run _) c _).1 = _
      rw [Procedure.run_bind, hsecond]
      rfl

theorem result_list (hlists : Lists answer s scope backups clusters) (c : Clock) :
    (Procedure.run answer (list scope) c s).1 =
      (records backups clusters).filter (·.isEligible) := by
  unfold list
  rw [Procedure.bind_eq_bind, Procedure.run_bind, result_listAll hlists]
  rfl

theorem result_newest (hlists : Lists answer s scope backups clusters) (c : Clock)
    (cluster : Option String) :
    (Procedure.run answer (newest scope cluster) c s).1 = newestOf backups clusters cluster := by
  unfold newest
  rw [Procedure.bind_eq_bind, Procedure.run_bind, result_list hlists]
  rfl

theorem catalog_loses_nothing (hlists : Lists answer s scope backups clusters) (c : Clock) :
    IsCatalog backups clusters (Procedure.run answer (listAll scope) c s).1 ∧
      (∀ b ∈ backups, IsFlagOf clusters b.spec.cluster (recordIn clusters b).archivesLogs) ∧
      (Procedure.run answer (list scope) c s).1 =
        (Procedure.run answer (listAll scope) c s).1.filter (fun r => r.state = .succeeded) ∧
      (∀ cluster, Finds backups clusters cluster
        (Procedure.run answer (newest scope cluster) c s).1) ∧
      ∀ {τ : Type} (answer' : (d : Server.Request) → τ → Server.Answer d × τ) (t : τ) (c' : Clock)
        (backups' : List Backup), Lists answer' t scope backups' clusters →
        backups'.Perm backups →
        (CompletedApart (fun _ => True) backups →
          (Procedure.run answer' (listAll scope) c' t).1 =
              (Procedure.run answer (listAll scope) c s).1 ∧
            (Procedure.run answer' (list scope) c' t).1 =
              (Procedure.run answer (list scope) c s).1) ∧
        ∀ cluster, CompletedApart (Qualifies cluster) backups →
          (Procedure.run answer' (newest scope cluster) c' t).1 =
            (Procedure.run answer (newest scope cluster) c s).1 := by
  rw [result_listAll hlists, result_list hlists]
  refine ⟨isCatalog_records backups clusters, ?_, rfl, ?_, ?_⟩
  · intro b _
    exact isFlagOf_archivesLogs clusters b.spec.cluster
  · intro cluster
    rw [result_newest hlists]
    exact finds_newestOf backups clusters cluster
  · intro τ answer' t c' backups' hlists' hperm
    rw [result_listAll hlists', result_list hlists']
    constructor
    · intro hapart
      rw [records_eq_of_perm hperm hapart]
      exact ⟨rfl, rfl⟩
    · intro cluster hapart
      rw [result_newest hlists, result_newest hlists']
      exact newestOf_eq_of_perm hperm hapart

end

/-!
### Two orders of three backups
-/

/-- A server that lists the same whatever it has been asked before. -/
def listing (backups : List Backup) (clusters : List Cluster) :
    (d : Server.Request) → Unit → Server.Answer d × Unit
  | .server (.listBackups _), _ => (Except.ok backups, ())
  | .server (.listClusters _), _ => (Except.ok clusters, ())
  | .server _, _ => (Except.error (.externalFailure "not now"), ())
  | .stamp, _ => (⟨.epoch, "bcdfg"⟩, ())

def firstBackup : Backup where
  metadata := { name := "b1", scope := "prod" }
  spec := { cluster := "c1" }
  status := some { state := some "Succeeded", completed := some ⟨1735693200, 0, by decide⟩ }

def secondBackup : Backup where
  metadata := { name := "b2", scope := "prod" }
  spec := { cluster := "c2" }
  status := some { state := some "Succeeded", completed := some ⟨1735776000, 0, by decide⟩ }

def runningBackup : Backup where
  metadata := { name := "b3", scope := "prod" }
  spec := { cluster := "c1" }
  status := some { state := some "Running" }

def firstOrder : List Backup := [firstBackup, runningBackup, secondBackup]

def secondOrder : List Backup := [secondBackup, firstBackup, runningBackup]

theorem catalog_of_three_backups :
    Lists (listing firstOrder []) () "prod" firstOrder [] ∧
      IsCatalog firstOrder [] (Procedure.run (listing firstOrder []) (listAll "prod") {} ()).1 ∧
      (Procedure.run (listing firstOrder []) (listAll "prod") {} ()).1.map (·.name) =
        ["b2", "b1", "b3"] ∧
      secondOrder.Perm firstOrder ∧
      CompletedApart (fun _ => True) firstOrder ∧
      (Procedure.run (listing secondOrder []) (listAll "prod") {} ()).1 =
        (Procedure.run (listing firstOrder []) (listAll "prod") {} ()).1 ∧
      CompletedApart (Qualifies (some "c1")) firstOrder ∧
      (Procedure.run (listing firstOrder []) (newest "prod" (some "c1")) {} ()).1 =
        some (recordIn [] firstBackup) := by
  have hlists : Lists (listing firstOrder []) () "prod" firstOrder [] := ⟨rfl, rfl⟩
  have hlists' : Lists (listing secondOrder []) () "prod" secondOrder [] := ⟨rfl, rfl⟩
  have hperm : secondOrder.Perm firstOrder := by decide
  have hapart : CompletedApart (fun _ => True) firstOrder := by
    unfold CompletedApart
    decide
  have hqualify : CompletedApart (Qualifies (some "c1")) firstOrder :=
    hapart.imp fun hne _ _ => hne trivial trivial
  have hrecords : records secondOrder [] = secondOrder.map (recordIn []) :=
    List.mergeSort_of_pairwise (by decide)
  have hnewest : newestOf secondOrder [] (some "c1") = some (recordIn [] firstBackup) := by
    unfold newestOf
    rw [hrecords]
    rfl
  rcases catalog_loses_nothing hlists {} with ⟨hcatalog, _, _, _, horder⟩
  rcases horder _ () {} secondOrder hlists' hperm with ⟨hall, hone⟩
  refine ⟨hlists, hcatalog, ?_, hperm, hapart, (hall hapart).1, hqualify, ?_⟩
  · rw [← (hall hapart).1, result_listAll hlists', hrecords]
    rfl
  · rw [← hone (some "c1") hqualify, result_newest hlists', hnewest]

end Catalog
end PointInTime
