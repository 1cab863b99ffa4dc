import PointInTime.Proofs.Catalog.Order
import PointInTime.Proofs.Catalog.Window
import PointInTime.Workflow.Plan

/-!
# What is picked

Of the backups of a source the newest is picked, or for an instant the newest that covers it.  Where
none covers it, one is picked as well, whose window can be shown instead.

Main statements: what is picked is the best of the candidates, and the order of the listing decides
only between candidates that were completed at once.
-/

namespace PointInTime
namespace Workflow

/-!
## What is better
-/

/-- A backup was completed, and another one no earlier. -/
def NotAfter (a b : BackupRecord) : Prop :=
  ∃ s t, a.completedAt = some s ∧ b.completedAt = some t ∧ s ≤ t

def Covers (t : Instant) (r : BackupRecord) : Prop :=
  ∃ w, r.window? = some w ∧ t ∈ w

def CompletedBy (t : Instant) (r : BackupRecord) : Prop :=
  ∃ s, r.completedAt = some s ∧ s ≤ t

def IsLatest (P : BackupRecord → Prop) (r : BackupRecord) : Prop :=
  P r ∧ ∀ r', P r' → NotAfter r' r

def IsEarliest (P : BackupRecord → Prop) (r : BackupRecord) : Prop :=
  P r ∧ ∀ r', P r' → NotAfter r r'

/-- The latest; for an instant the latest that covers it, else the latest completed by then, else
the earliest. -/
def IsChoice (P : BackupRecord → Prop) (r : BackupRecord) : Option Instant → Prop
  | none => IsLatest P r
  | some t =>
      IsLatest (fun r => P r ∧ Covers t r) r ∨
        (∀ r', P r' → ¬ Covers t r') ∧
          (IsLatest (fun r => P r ∧ CompletedBy t r) r ∨
            (∀ r', P r' → ¬ CompletedBy t r') ∧ IsEarliest P r)

variable {P Q : BackupRecord → Prop} {r r' : BackupRecord} {t : Instant}

theorem completedAt_eq_of_notAfter (h : NotAfter r r') (h' : NotAfter r' r) :
    r.completedAt = r'.completedAt := by
  rcases h with ⟨s, t, hs, ht, hle⟩
  rcases h' with ⟨t', s', ht', hs', hle'⟩
  rw [ht] at ht'
  rw [hs] at hs'
  cases ht'
  cases hs'
  rw [hs, ht, Instant.le_antisymm hle hle']

theorem IsLatest.completedAt_eq (h : IsLatest P r) (h' : IsLatest P r') :
    r.completedAt = r'.completedAt :=
  completedAt_eq_of_notAfter (h'.2 r h.1) (h.2 r' h'.1)

theorem IsEarliest.completedAt_eq (h : IsEarliest P r) (h' : IsEarliest P r') :
    r.completedAt = r'.completedAt :=
  completedAt_eq_of_notAfter (h.2 r' h'.1) (h'.2 r h.1)

theorem IsChoice.mem {instant : Option Instant} (h : IsChoice P r instant) : P r := by
  cases instant with
  | none => exact h.1
  | some t =>
      rcases h with hcovers | ⟨_, hcompleted | ⟨_, hearliest⟩⟩
      · exact hcovers.1.1
      · exact hcompleted.1.1
      · exact hearliest.1

/-- Two best choices were completed at once. -/
theorem IsChoice.completedAt_eq {instant : Option Instant} (h : IsChoice P r instant)
    (h' : IsChoice P r' instant) : r.completedAt = r'.completedAt := by
  cases instant with
  | none => exact IsLatest.completedAt_eq h h'
  | some t =>
      rcases h with hcovers | ⟨hnone, hrest⟩
      · rcases h' with hcovers' | ⟨hnone', _⟩
        · exact hcovers.completedAt_eq hcovers'
        · exact absurd hcovers.1.2 (hnone' r hcovers.1.1)
      · rcases h' with hcovers' | ⟨_, hrest'⟩
        · exact absurd hcovers'.1.2 (hnone r' hcovers'.1.1)
        · rcases hrest with hcompleted | ⟨hlater, hearliest⟩
          · rcases hrest' with hcompleted' | ⟨hlater', _⟩
            · exact hcompleted.completedAt_eq hcompleted'
            · exact absurd hcompleted.1.2 (hlater' r hcompleted.1.1)
          · rcases hrest' with hcompleted' | ⟨_, hearliest'⟩
            · exact absurd hcompleted'.1.2 (hlater r' hcompleted'.1.1)
            · exact hearliest.completedAt_eq hearliest'

theorem covers_iff : covers t r = true ↔ Covers t r := by
  simp [covers, Covers, Option.any_eq_true]

theorem completedBy_iff : completedBy t r = true ↔ CompletedBy t r := by
  simp [completedBy, CompletedBy, Option.any_eq_true]

/-!
## Choosing from a list
-/

theorem mem_of_pick? {instant : Option Instant} {records : List BackupRecord} {r : BackupRecord}
    (hr : pick? instant records = some r) : r ∈ records := by
  unfold pick? at hr
  split at hr
  · exact List.mem_of_head? hr
  · rcases Option.or_eq_some_iff.mp hr with hfound | ⟨_, hlast⟩
    · rcases Option.or_eq_some_iff.mp hfound with hcovers | ⟨_, hcompleted⟩
      · exact List.mem_of_find?_eq_some hcovers
      · exact List.mem_of_find?_eq_some hcompleted
    · exact List.mem_of_getLast? hlast

section

variable {records : List BackupRecord}
variable (hsorted : records.Pairwise fun a b => a.notOlder b = true)
variable (hcompleted : ∀ r ∈ records, ∃ t, r.completedAt = some t)

include hcompleted

theorem notAfter_self (hr : r ∈ records) : NotAfter r r := by
  obtain ⟨t, ht⟩ := hcompleted r hr
  exact ⟨t, t, ht, ht, Instant.le_refl t⟩

theorem notAfter_of_notOlder (hr : r ∈ records) (hr' : r' ∈ records)
    (hle : r.notOlder r' = true) : NotAfter r' r := by
  obtain ⟨s, hs⟩ := hcompleted r hr
  obtain ⟨t, ht⟩ := hcompleted r' hr'
  exact ⟨t, s, ht, hs, BackupRecord.le_of_notOlder hs ht hle⟩

include hsorted

/-- Newest first, the first of a kind is the latest of it. -/
theorem isLatest_of_find? {p : BackupRecord → Bool} (hfound : records.find? p = some r) :
    IsLatest (fun r => r ∈ records ∧ p r = true) r := by
  have hmem : r ∈ records := List.mem_of_find?_eq_some hfound
  obtain ⟨hp, before, after, hsplit, hnone⟩ := List.find?_eq_some_iff_append.mp hfound
  refine ⟨⟨hmem, hp⟩, ?_⟩
  rintro r' ⟨hmem', hp'⟩
  rw [hsplit, List.mem_append, List.mem_cons] at hmem'
  rcases hmem' with hbefore | rfl | hafter
  · have hnot := hnone r' hbefore
    rw [hp'] at hnot
    cases hnot
  · exact notAfter_self hcompleted hmem
  · have hmem' : r' ∈ records := by
      rw [hsplit]
      exact List.mem_append_right _ (List.mem_cons_of_mem _ hafter)
    rw [hsplit] at hsorted
    have hle := List.rel_of_pairwise_cons (List.pairwise_append.mp hsorted).2.1 hafter
    exact notAfter_of_notOlder hcompleted hmem hmem' hle

theorem isEarliest_of_getLast? (hlast : records.getLast? = some r) :
    IsEarliest (· ∈ records) r := by
  have hmem : r ∈ records := List.mem_of_getLast? hlast
  obtain ⟨before, hsplit⟩ := List.getLast?_eq_some_iff.mp hlast
  refine ⟨hmem, ?_⟩
  intro r' hmem'
  have hbefore : r' ∈ before ∨ r' = r := by
    rw [hsplit] at hmem'
    simpa using hmem'
  rcases hbefore with hbefore | rfl
  · rw [hsplit] at hsorted
    have hle := (List.pairwise_append.mp hsorted).2.2 r' hbefore r (List.mem_singleton_self r)
    exact notAfter_of_notOlder hcompleted hmem' hmem hle
  · exact notAfter_self hcompleted hmem

theorem isChoice_of_pick? {instant : Option Instant} (hpick : pick? instant records = some r) :
    IsChoice (· ∈ records) r instant := by
  cases instant with
  | none =>
      have hfirst : records.find? (fun _ => true) = some r := by
        cases records with
        | nil => cases hpick
        | cons a rest => exact hpick
      have hlatest := isLatest_of_find? hsorted hcompleted hfirst
      simp only [and_true] at hlatest
      exact hlatest
  | some t =>
      simp only [pick?] at hpick
      cases hcovers : records.find? (covers t) with
      | some a =>
          rw [hcovers] at hpick
          cases hpick
          left
          simpa only [covers_iff] using isLatest_of_find? hsorted hcompleted hcovers
      | none =>
          right
          constructor
          · intro r' hr' hcovers'
            exact List.find?_eq_none.mp hcovers r' hr' (covers_iff.mpr hcovers')
          cases hby : records.find? (completedBy t) with
          | some a =>
              rw [hcovers, hby] at hpick
              cases hpick
              left
              simpa only [completedBy_iff] using isLatest_of_find? hsorted hcompleted hby
          | none =>
              rw [hcovers, hby] at hpick
              right
              constructor
              · intro r' hr' hby'
                exact List.find?_eq_none.mp hby r' hr' (completedBy_iff.mpr hby')
              · exact isEarliest_of_getLast? hsorted hcompleted hpick

end

theorem exists_pick? (instant : Option Instant) {records : List BackupRecord}
    (hr : r ∈ records) : ∃ r', pick? instant records = some r' := by
  cases records with
  | nil => cases hr
  | cons a rest =>
      cases instant with
      | none => exact ⟨a, rfl⟩
      | some t =>
          unfold pick?
          rw [← Option.isSome_iff_exists, Option.isSome_or]
          simp

/-!
## Choosing from the catalog
-/

/-- The backups of a source that could be restored from and were completed. -/
structure IsCandidate (backups : List Backup) (clusters : List Cluster) (source : String)
    (r : BackupRecord) : Prop where
  listed : ∃ b ∈ backups, r = .ofBackup b (Catalog.archivesLogs clusters b.spec.cluster)
  succeeded : r.state = .succeeded
  ofSource : r.cluster = source
  completed : ∃ t, r.completedAt = some t

variable {backups : List Backup} {clusters : List Cluster} {source : String}

/-- The candidates as a choice is made from them. -/
def lineup (backups : List Backup) (clusters : List Cluster) (source : String) :
    List BackupRecord :=
  candidates source ((Catalog.records backups clusters).filter (·.isEligible))

theorem mem_lineup :
    r ∈ lineup backups clusters source ↔ IsCandidate backups clusters source r := by
  unfold lineup candidates
  simp only [List.mem_filter, Catalog.mem_records, BackupRecord.isEligible, Bool.and_eq_true,
    beq_iff_eq, Option.isSome_iff_exists]
  constructor
  · rintro ⟨⟨hlisted, hsucceeded⟩, hsource, hcompleted⟩
    exact ⟨hlisted, hsucceeded, hsource, hcompleted⟩
  · rintro ⟨hlisted, hsucceeded, hsource, hcompleted⟩
    exact ⟨⟨hlisted, hsucceeded⟩, hsource, hcompleted⟩

theorem isChoice_of_lineup {instant : Option Instant}
    (hpick : pick? instant (lineup backups clusters source) = some r) :
    IsChoice (IsCandidate backups clusters source) r instant := by
  have hsorted : (lineup backups clusters source).Pairwise fun a b => a.notOlder b = true :=
    ((Catalog.pairwise_records backups clusters).filter _).filter _
  have hcompleted (r : BackupRecord) (hr : r ∈ lineup backups clusters source) :
      ∃ t, r.completedAt = some t := (mem_lineup.mp hr).completed
  simpa only [mem_lineup] using isChoice_of_pick? hsorted hcompleted hpick

theorem pick?_lineup_eq_none {instant : Option Instant} :
    pick? instant (lineup backups clusters source) = none ↔
      ∀ r, ¬ IsCandidate backups clusters source r := by
  constructor
  · intro hnone r hr
    obtain ⟨r', hr'⟩ := exists_pick? instant (mem_lineup.mpr hr)
    rw [hnone] at hr'
    cases hr'
  · intro hempty
    cases hpick : pick? instant (lineup backups clusters source) with
    | none => rfl
    | some r => exact absurd (isChoice_of_lineup hpick).mem (hempty r)

/-- Where no two candidates were completed at once the listing may come in any order. -/
theorem pick?_lineup_of_perm {instant : Option Instant} {backups' : List Backup}
    (hperm : backups'.Perm backups)
    (hdistinct : ∀ a b, IsCandidate backups clusters source a →
      IsCandidate backups clusters source b → a.completedAt = b.completedAt → a = b) :
    pick? instant (lineup backups' clusters source) =
      pick? instant (lineup backups clusters source) := by
  have hsame : IsCandidate backups' clusters source = IsCandidate backups clusters source := by
    funext r
    apply propext
    constructor
    · rintro ⟨⟨b, hb, hr⟩, hsucceeded, hsource, hcompleted⟩
      exact ⟨⟨b, hperm.mem_iff.mp hb, hr⟩, hsucceeded, hsource, hcompleted⟩
    · rintro ⟨⟨b, hb, hr⟩, hsucceeded, hsource, hcompleted⟩
      exact ⟨⟨b, hperm.mem_iff.mpr hb, hr⟩, hsucceeded, hsource, hcompleted⟩
  cases hpick : pick? instant (lineup backups clusters source) with
  | none => rw [pick?_lineup_eq_none, hsame, ← pick?_lineup_eq_none, hpick]
  | some r =>
      have hchoice := isChoice_of_lineup hpick
      obtain ⟨r', hpick'⟩ : ∃ r', pick? instant (lineup backups' clusters source) = some r' := by
        apply exists_pick? instant (r := r)
        rw [mem_lineup, hsame]
        exact hchoice.mem
      have hchoice' := isChoice_of_lineup hpick'
      rw [hsame] at hchoice'
      rw [hpick', hdistinct r' r hchoice'.mem hchoice.mem (hchoice'.completedAt_eq hchoice)]

end Workflow
end PointInTime
