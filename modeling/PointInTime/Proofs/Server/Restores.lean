import Mathlib.Data.List.Forall2
import PointInTime.Proofs.Resource.Restore
import PointInTime.Proofs.Server.Answers

/-!
# The restore jobs of a namespace

A stored job is final when it can be read and reports a final state.  Every other job counts as
open, whatever is wrong with it.  The restore executor moves jobs on: it never reopens a final one,
it leaves all of them readable, and it creates none.

Main statements: what the executor does never adds an open job, and a listing that shows no job in
flight shows that all jobs are final, as long as all of them can be read.
-/

namespace PointInTime

namespace Restore

def IsReadable (j : Json) : Prop :=
  (ofStored? j).isSome = true

/-- Whether a stored job is known to be over. -/
def isFinal (j : Json) : Bool :=
  (ofStored? j).any (·.state.isTerminal)

/-- What may become of a stored job: it stays readable, and if it was over it still is. -/
def Advances (j j' : Json) : Prop :=
  IsReadable j' ∧ (isFinal j = true → isFinal j' = true)

def finalWords : List String :=
  ["Succeeded", "Failed", "Error"]

/-- Whether a stored job does not say that it is over. -/
def IsAtWork (j : Json) : Prop :=
  ∀ word ∈ finalWords, word? j ≠ some word

/-- Whether a stored object is left out when jobs are listed: it has metadata that can be read, but
it cannot be read as a job. -/
def IsOverlooked (j : Json) : Prop :=
  ofStored? j = none ∧ (Object.ofJson? j).isSome = true

theorem isTerminal_ofText {raw : String} (h : (RestoreState.ofText raw).isTerminal = true) :
    raw ∈ finalWords := by
  unfold RestoreState.ofText at h
  split at h
  · cases h
  · split at h
    · cases h
    · split at h
      · next hraw => simp [hraw, finalWords]
      · split at h
        · next hraw => simp [hraw, finalWords]
        · split at h
          · next hraw => simp [hraw, finalWords]
          · cases h

theorem inFlight_of_isAtWork {j : Json} {r : Restore} (hj : IsAtWork j)
    (hread : ofStored? j = some r) : r.state.isInFlight = true := by
  rw [state_eq_ofText_word? hread, RestoreState.isInFlight, Bool.not_eq_true', Bool.eq_false_iff]
  intro hterminal
  have hword := isTerminal_ofText hterminal
  cases hj' : word? j with
  | none =>
      rw [hj'] at hword
      revert hword
      decide
  | some word =>
      rw [hj'] at hword
      exact hj word hword hj'

theorem isFinal_of_not_inFlight {j : Json} (hread : IsReadable j)
    (h : ∀ r, ofStored? j = some r → r.state.isInFlight = false) : isFinal j = true := by
  cases hj : ofStored? j with
  | none =>
      simp [IsReadable, hj] at hread
  | some r =>
      have hr := h r hj
      simpa [isFinal, hj, RestoreState.isInFlight] using hr

end Restore

namespace Store

def restoresIn (scope : String) (s : Store) : List Json :=
  inScope scope s.restores

theorem restoresIn_of_eq {s s' : Store} (h : s'.restores = s.restores) (scope : String) :
    s'.restoresIn scope = s.restoresIn scope := by
  rw [restoresIn, h, restoresIn]

theorem mem_restoresIn {scope : String} {s : Store} {j : Json} :
    j ∈ s.restoresIn scope ↔ j ∈ s.restores ∧ metadataText "namespace" j = scope := by
  simp [restoresIn, inScope]

def RestoresReadable (scope : String) (s : Store) : Prop :=
  ∀ j ∈ s.restoresIn scope, Restore.IsReadable j

def openRestores (scope : String) (s : Store) : Nat :=
  (s.restoresIn scope).countP fun j => !Restore.isFinal j

/-- Whether a job of a namespace that is not overlooked does not say that it is over. -/
def HasRunning (scope : String) (s : Store) : Prop :=
  ∃ j ∈ s.restoresIn scope, ¬ Restore.IsOverlooked j ∧ Restore.IsAtWork j

/-- What others do to the jobs of a namespace: some are removed, the others advance, and none is
created.  Everything else of the store may change. -/
def RestoresAdvance (scope : String) (s s' : Store) : Prop :=
  ∃ kept, kept.Sublist (s.restoresIn scope) ∧
    List.Forall₂ Restore.Advances kept (s'.restoresIn scope)

theorem openRestores_eq_zero_iff {scope : String} {s : Store} :
    s.openRestores scope = 0 ↔ ∀ j ∈ s.restoresIn scope, Restore.isFinal j = true := by
  simp [openRestores, List.countP_eq_zero]

/-!
## Advancing
-/

theorem readable_of_forall₂_advances {js js' : List Json}
    (h : List.Forall₂ Restore.Advances js js') : ∀ j' ∈ js', Restore.IsReadable j' := by
  induction h with
  | nil => simp
  | cons hj _ ih =>
      intro j' hj'
      rcases List.mem_cons.mp hj' with rfl | hrest
      · exact hj.1
      · exact ih j' hrest

theorem countP_open_le_of_forall₂_advances {js js' : List Json}
    (h : List.Forall₂ Restore.Advances js js') :
    js'.countP (fun j => !Restore.isFinal j) ≤ js.countP (fun j => !Restore.isFinal j) := by
  induction h with
  | nil => simp
  | @cons j j' js js' hj _ ih =>
      rw [List.countP_cons, List.countP_cons]
      have hhead : (if (!Restore.isFinal j') = true then 1 else 0) ≤
          if (!Restore.isFinal j) = true then 1 else 0 := by
        cases hfinal : Restore.isFinal j with
        | true => simp [hj.2 hfinal]
        | false => split <;> simp
      omega

theorem RestoresAdvance.readable {scope : String} {s s' : Store}
    (h : RestoresAdvance scope s s') : RestoresReadable scope s' := by
  obtain ⟨_, _, hall⟩ := h
  exact readable_of_forall₂_advances hall

theorem RestoresAdvance.openRestores_le {scope : String} {s s' : Store}
    (h : RestoresAdvance scope s s') : s'.openRestores scope ≤ s.openRestores scope := by
  obtain ⟨kept, hkept, hall⟩ := h
  exact Nat.le_trans (countP_open_le_of_forall₂_advances hall) (hkept.countP_le)

/-!
## Listing
-/

theorem perform_listRestores_ok {scope : String} {s : Store} {jobs : List Restore}
    (h : (s.perform (.listRestores scope)).1 = Except.ok jobs) :
    (∀ j ∈ s.restoresIn scope, (Object.ofJson? j).isSome = true) ∧
      jobs = (s.restoresIn scope).filterMap Restore.ofStored? := by
  have hlist : (readList (s.restoresIn scope)).map (fun list => list.filterMap Restore.ofObject?) =
      Except.ok jobs := h
  cases hread : readList (s.restoresIn scope) with
  | error e =>
      rw [hread] at hlist
      cases hlist
  | ok list =>
      rw [hread] at hlist
      cases hlist
      exact filterMap_of_readList Restore.ofObject? hread

theorem HasRunning.listed {scope : String} {s : Store} {jobs : List Restore}
    (hs : s.HasRunning scope) (hlisted : (s.perform (.listRestores scope)).1 = Except.ok jobs) :
    ∃ r ∈ jobs, r.state.isInFlight = true := by
  obtain ⟨hobjects, rfl⟩ := perform_listRestores_ok hlisted
  obtain ⟨j, hj, hseen, hwork⟩ := hs
  cases hread : Restore.ofStored? j with
  | none =>
      exact absurd ⟨hread, hobjects j hj⟩ hseen
  | some r =>
      exact ⟨r, List.mem_filterMap.mpr ⟨j, hj, hread⟩, Restore.inFlight_of_isAtWork hwork hread⟩

theorem openRestores_eq_zero_of_listed {scope : String} {s : Store} {jobs : List Restore}
    (hread : RestoresReadable scope s)
    (hlisted : (s.perform (.listRestores scope)).1 = Except.ok jobs)
    (hquiet : ∀ r ∈ jobs, r.state.isInFlight = false) : s.openRestores scope = 0 := by
  rw [openRestores_eq_zero_iff]
  intro j hj
  apply Restore.isFinal_of_not_inFlight (hread j hj)
  intro r hr
  apply hquiet r
  rw [(perform_listRestores_ok hlisted).2]
  exact List.mem_filterMap.mpr ⟨j, hj, hr⟩

/-!
## Creating
-/

theorem restoresIn_perform_createRestore {scope : String} {r : Restore} (s : Store) :
    (s.perform (.createRestore r)).2.restoresIn scope = s.restoresIn scope ∨
      (s.perform (.createRestore r)).2.restoresIn scope = s.restoresIn scope ++ [r.toJson] := by
  simp only [perform, create]
  split
  · rename_i restores hcreate
    have hrestores : restores = s.restores ++ [r.toJson] := by
      split at hcreate
      · cases hcreate
      · exact (Option.some.inj hcreate).symm
    subst hrestores
    simp only [restoresIn, inScope, List.filter_append]
    by_cases hscope : metadataText "namespace" r.toJson = scope
    · right
      simp [hscope]
    · left
      simp [hscope]
  · exact Or.inl rfl

end Store
end PointInTime
