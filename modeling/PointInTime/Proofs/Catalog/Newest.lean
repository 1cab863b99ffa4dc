import PointInTime.Proofs.Catalog.Order
import PointInTime.Proofs.Catalog.Reading

/-!
# The newest backup

The catalog is asked for the newest backup that a standby can be brought to.  Of several that were
completed at once it is the one that is listed first, since sorting keeps their order.

Main statement: what the catalog answers is the newest of the listed backups, and it is determined
by the list.
-/

namespace PointInTime

namespace Backup

def completed? (b : Backup) : Option Instant :=
  (b.status.getD {}).completed

/-- A backup that can be restored from, of the cluster if one is given. -/
structure Qualifies (cluster : Option String) (b : Backup) : Prop where
  succeeded : b.state = .succeeded
  ofCluster : ∀ c ∈ cluster, b.spec.cluster = c

/-- A backup was completed no later than another one, if it was completed. -/
def NotLater (a b : Backup) : Prop :=
  ∀ t ∈ a.completed?, ∃ u ∈ b.completed?, t ≤ u

/-- A backup of a list that no later one qualifies beside; those of the same time stand behind. -/
def IsNewest (backups : List Backup) (cluster : Option String) (b : Backup) : Prop :=
  ∃ before after, backups = before ++ b :: after ∧ b.Qualifies cluster ∧
    (∀ b' ∈ before, b'.Qualifies cluster → ¬ b.NotLater b') ∧
    ∀ b' ∈ after, b'.Qualifies cluster → b'.NotLater b

variable {a b b' : Backup} {backups : List Backup} {cluster : Option String}

theorem notLater_or (a b : Backup) : a.NotLater b ∨ b.NotLater a := by
  cases ha : a.completed? with
  | none => exact Or.inl (by simp [NotLater, ha])
  | some t =>
      cases hb : b.completed? with
      | none => exact Or.inr (by simp [NotLater, hb])
      | some u => simpa [NotLater, ha, hb] using Instant.le_total t u

theorem completed?_eq_of_notLater (hab : a.NotLater b) (hba : b.NotLater a) :
    a.completed? = b.completed? := by
  unfold NotLater at hab hba
  cases ha : a.completed? with
  | none =>
      cases hb : b.completed? with
      | none => rfl
      | some u =>
          rcases hba u hb with ⟨t, ht, _⟩
          rw [ha] at ht
          cases ht
  | some t =>
      rcases hab t ha with ⟨u, hu, htu⟩
      rcases hba u hu with ⟨t', ht', hut⟩
      rw [ha] at ht'
      cases ht'
      rw [hu, Instant.le_antisymm htu hut]

theorem IsNewest.mem (hb : IsNewest backups cluster b) : b ∈ backups := by
  rcases hb with ⟨before, after, rfl, -⟩
  exact List.mem_append_right _ List.mem_cons_self

theorem IsNewest.qualifies (hb : IsNewest backups cluster b) : b.Qualifies cluster := by
  rcases hb with ⟨before, after, -, hqualifies, -⟩
  exact hqualifies

theorem IsNewest.notLater (hb : IsNewest backups cluster b) (hmem : b' ∈ backups)
    (hqualifies : b'.Qualifies cluster) : b'.NotLater b := by
  rcases hb with ⟨before, after, rfl, -, hbefore, hafter⟩
  rcases List.mem_append.mp hmem with hearlier | hlater
  · exact (notLater_or b b').resolve_left (hbefore b' hearlier hqualifies)
  · rcases List.mem_cons.mp hlater with rfl | hlater
    · exact (notLater_or b' b').elim id id
    · exact hafter b' hlater hqualifies

/-- Of two newest backups neither stands behind the other. -/
theorem IsNewest.eq (hb : IsNewest backups cluster b) (hb' : IsNewest backups cluster b') :
    b = b' := by
  rcases hb with ⟨before, after, hlist, hqualifies, hbefore, hafter⟩
  rcases hb' with ⟨before', after', hlist', hqualifies', hbefore', hafter'⟩
  rcases List.append_eq_append_iff.mp (hlist.symm.trans hlist') with
    ⟨between, hfirst, hrest⟩ | ⟨between, hfirst, hrest⟩
  · cases between with
    | nil => exact (List.cons.inj hrest).1
    | cons c between =>
        obtain ⟨rfl, hafterb⟩ := List.cons.inj hrest
        have hlater : b'.NotLater b := hafter b' (by simp [hafterb]) hqualifies'
        exact absurd hlater (hbefore' b (by simp [hfirst]) hqualifies)
  · cases between with
    | nil => exact (List.cons.inj hrest).1.symm
    | cons c between =>
        obtain ⟨rfl, hafterb⟩ := List.cons.inj hrest
        have hlater : b.NotLater b' := hafter' b (by simp [hafterb]) hqualifies
        exact absurd hlater (hbefore b' (by simp [hfirst]) hqualifies')

end Backup

namespace Catalog

open Backup

/-!
## Finding in a sorted list
-/

section

variable {α : Type} {le : α → α → Bool} {P : α → Bool}

/-- By induction on the list: sorting puts its first element into the rest, behind those alone that
it may not stand before. -/
theorem find?_mergeSort_eq_some
    (trans : ∀ a b c, le a b = true → le b c = true → le a c = true)
    (total : ∀ a b, (le a b || le b a) = true) {l : List α} {a : α}
    (h : (l.mergeSort le).find? P = some a) :
    ∃ before after, l = before ++ a :: after ∧
      (∀ b ∈ before, P b = true → ¬ le b a = true) ∧
      ∀ b ∈ after, P b = true → le a b = true := by
  induction l with
  | nil => simp at h
  | cons c l ih =>
      obtain ⟨low, high, hsorted, hrest, hlow⟩ := List.mergeSort_cons trans total c l
      rw [hsorted, List.find?_append] at h
      rw [hrest, List.find?_append] at ih
      have hbehind (hskipped : P c = true → ¬ le c a = true)
          (hfound : (low.find? P).or (high.find? P) = some a) :
          ∃ before after, c :: l = before ++ a :: after ∧
            (∀ b ∈ before, P b = true → ¬ le b a = true) ∧
            ∀ b ∈ after, P b = true → le a b = true := by
        obtain ⟨before, after, rfl, hbefore, hafter⟩ := ih hfound
        refine ⟨c :: before, after, rfl, ?_, hafter⟩
        intro b hb hP
        rcases List.mem_cons.mp hb with rfl | hb
        · exact hskipped hP
        · exact hbefore b hb hP
      cases hfirst : low.find? P with
      | some a' =>
          rw [hfirst] at h hbehind
          cases h
          refine hbehind ?_ rfl
          intro _ hle
          have hnot := hlow a (List.mem_of_find?_eq_some hfirst)
          simp [hle] at hnot
      | none =>
          rw [hfirst, Option.none_or] at h hbehind
          by_cases hP : P c = true
          · rw [List.find?_cons_of_pos hP] at h
            cases h
            refine ⟨[], l, rfl, (fun b hb => nomatch hb), fun b hb hPb => ?_⟩
            have hmem : b ∈ low ++ high := by
              rw [← hrest]
              exact (List.mergeSort_perm l le).mem_iff.mpr hb
            have hpairwise := List.pairwise_mergeSort trans total (a :: l)
            rw [hsorted, List.pairwise_append, List.pairwise_cons] at hpairwise
            rcases List.mem_append.mp hmem with hearlier | hlater
            · exact absurd hPb (List.find?_eq_none.mp hfirst b hearlier)
            · exact hpairwise.2.1.1 b hlater
          · rw [List.find?_cons_of_neg hP] at h
            exact hbehind (fun hc => absurd hc hP) h

end

/-!
## What the catalog answers
-/

variable {backups : List Backup} {clusters : List Cluster} {cluster : Option String}

/-- The record of a backup, under the clusters that were listed. -/
def recordIn (clusters : List Cluster) (b : Backup) : BackupRecord :=
  .ofBackup b (archivesLogs clusters b.spec.cluster)

theorem notOlder_recordIn (clusters : List Cluster) (a b : Backup) :
    (recordIn clusters a).notOlder (recordIn clusters b) = true ↔ b.NotLater a := by
  have ha : (recordIn clusters a).completedAt = a.completed? := rfl
  have hb : (recordIn clusters b).completedAt = b.completed? := rfl
  unfold BackupRecord.notOlder NotLater
  rw [ha, hb]
  cases a.completed? <;> cases b.completed? <;> simp

theorem qualifies_iff (clusters : List Cluster) (b : Backup) :
    ((recordIn clusters b).isEligible && ofCluster cluster (recordIn clusters b)) = true ↔
      b.Qualifies cluster := by
  rw [Bool.and_eq_true]
  constructor
  · rintro ⟨heligible, hcluster⟩
    refine ⟨eq_of_beq heligible, ?_⟩
    rintro c ⟨⟩
    exact eq_of_beq hcluster
  · rintro ⟨hsucceeded, hcluster⟩
    refine ⟨beq_iff_eq.mpr hsucceeded, ?_⟩
    cases cluster with
    | none => rfl
    | some c => exact beq_iff_eq.mpr (hcluster c rfl)

theorem newestOf_eq (backups : List Backup) (clusters : List Cluster) (cluster : Option String) :
    newestOf backups clusters cluster =
      ((backups.mergeSort fun a b => (recordIn clusters a).notOlder (recordIn clusters b)).find?
        fun b => (recordIn clusters b).isEligible && ofCluster cluster (recordIn clusters b)).map
          (recordIn clusters) := by
  unfold newestOf records BackupRecord.sortNewestFirst
  show List.find? _ (List.filter _ ((backups.map (recordIn clusters)).mergeSort _)) = _
  rw [List.find?_filter, ← List.map_mergeSort (f := recordIn clusters) (fun _ _ _ _ => rfl),
    List.find?_map]
  simp only [Bool.decide_and, Bool.decide_eq_true]
  rfl

theorem isNewest_of_newestOf {n : BackupRecord} (hn : newestOf backups clusters cluster = some n) :
    ∃ b, IsNewest backups cluster b ∧ n = recordIn clusters b := by
  rw [newestOf_eq] at hn
  rcases Option.map_eq_some_iff.mp hn with ⟨b, hb, rfl⟩
  obtain ⟨before, after, hlist, hbefore, hafter⟩ := find?_mergeSort_eq_some
    (fun a b c => BackupRecord.notOlder_trans (recordIn clusters a) (recordIn clusters b)
      (recordIn clusters c))
    (fun a b => BackupRecord.notOlder_total (recordIn clusters a) (recordIn clusters b)) hb
  have hfound := List.find?_some hb
  have hqualifies : b.Qualifies cluster := (qualifies_iff clusters b).mp hfound
  refine ⟨b, ⟨before, after, hlist, hqualifies, ?_, ?_⟩, rfl⟩
  · intro b' hb' hqualifies'
    rw [← notOlder_recordIn clusters]
    exact hbefore b' hb' ((qualifies_iff clusters b').mpr hqualifies')
  · intro b' hb' hqualifies'
    rw [← notOlder_recordIn clusters]
    exact hafter b' hb' ((qualifies_iff clusters b').mpr hqualifies')

theorem not_qualifies_of_newestOf (hnone : newestOf backups clusters cluster = none) {b : Backup}
    (hb : b ∈ backups) : ¬ b.Qualifies cluster := by
  rw [newestOf_eq, Option.map_eq_none_iff, List.find?_eq_none] at hnone
  intro hqualifies
  exact hnone b ((List.mergeSort_perm _ _).mem_iff.mpr hb)
    ((qualifies_iff clusters b).mpr hqualifies)

end Catalog
end PointInTime
