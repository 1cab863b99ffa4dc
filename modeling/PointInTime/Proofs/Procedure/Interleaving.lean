import Mathlib.Logic.Function.Basic
import Mathlib.Logic.Relation
import PointInTime.Proofs.Procedure.Ensures

/-!
# Interleaved procedures

Any number of procedures run at the same time in the same surroundings.  One step is one request of
one of them, or the end of one of its waits, or something that others do.

Main statement: what every allowed request of every procedure keeps holds whenever all of them are
looked at, and there each procedure still is as it was described.
-/

namespace PointInTime
namespace Procedure

variable {I : Interface} {σ α β ι : Type}

/-- What a procedure has exchanged and what is left of it. -/
structure Thread (I : Interface) (α : Type) where
  log : History I := []
  rest : Procedure I α

structure Threads (I : Interface) (σ ι α : Type) where
  state : σ
  threads : ι → Thread I α

namespace Threads

def start (s : σ) (p : ι → Procedure I α) : Threads I σ ι α :=
  ⟨s, fun i => { rest := p i }⟩

def logs (w : Threads I σ ι α) (i : ι) : History I :=
  (w.threads i).log

variable [DecidableEq ι] {E : Surroundings I σ}

def move (w : Threads I σ ι α) (i : ι) (more : History I) (s : σ) (p : Procedure I α) :
    Threads I σ ι α :=
  ⟨s, Function.update w.threads i ⟨(w.threads i).log ++ more, p⟩⟩

inductive Step (E : Surroundings I σ) : Threads I σ ι α → Threads I σ ι α → Prop where
  | drift {w : Threads I σ ι α} {s : σ} : E.drifts w.state s → Step E w { w with state := s }
  | ask {w : Threads I σ ι α} (i : ι) {r : I.Request} {x : I.Answer r}
      {next : I.Answer r → Procedure I α} {s : σ} :
      (w.threads i).rest = .ask r next → E.answers w.state r x s →
      Step E w (w.move i [⟨r, x⟩] s (next x))
  | sleep {w : Threads I σ ι α} (i : ι) {d : Duration} {p : Procedure I α} :
      (w.threads i).rest = .sleep d p → Step E w (w.move i [] w.state p)
  | pause {w : Threads I σ ι α} (i : ι) {d : Duration} {next : Wake → Procedure I α} (e : Wake) :
      (w.threads i).rest = .pause d next → Step E w (w.move i [] w.state (next e))

def Reaches (E : Surroundings I σ) : Threads I σ ι α → Threads I σ ι α → Prop :=
  Relation.ReflTransGen (Step E)

/-!
## Invariants
-/

@[simp] theorem state_move (w : Threads I σ ι α) (i : ι) (more : History I) (s : σ)
    (p : Procedure I α) : (w.move i more s p).state = s := rfl

@[simp] theorem rest_move (w : Threads I σ ι α) (i : ι) (more : History I) (s : σ)
    (p : Procedure I α) : ((w.move i more s p).threads i).rest = p := by
  simp [move]

@[simp] theorem logs_move_self (w : Threads I σ ι α) (i : ι) (more : History I) (s : σ)
    (p : Procedure I α) : (w.move i more s p).logs i = w.logs i ++ more := by
  simp [logs, move]

@[simp] theorem logs_move_of_ne (w : Threads I σ ι α) {i j : ι} (hj : j ≠ i) (more : History I)
    (s : σ) (p : Procedure I α) : (w.move i more s p).logs j = w.logs j := by
  simp [logs, move, hj]

theorem logs_move (w : Threads I σ ι α) (i : ι) (more : History I) (s : σ) (p : Procedure I α) :
    (w.move i more s p).logs = Function.update w.logs i (w.logs i ++ more) := by
  funext j
  by_cases hj : j = i
  · subst hj
    simp
  · simp [hj]

/-- All procedures are as they were described. -/
def AsDescribed (asks : ι → History I → I.Request → Prop) (ends : ι → History I → α → Prop)
    (w : Threads I σ ι α) : Prop :=
  ∀ i, Ensures (asks i) (ends i) (w.threads i).rest (w.logs i)

theorem AsDescribed.move {asks : ι → History I → I.Request → Prop}
    {ends : ι → History I → α → Prop} {w : Threads I σ ι α} (hw : AsDescribed asks ends w) {i : ι}
    {more : History I} {s : σ} {p : Procedure I α}
    (hp : Ensures (asks i) (ends i) p (w.logs i ++ more)) :
    AsDescribed asks ends (w.move i more s p) := by
  intro j
  by_cases hj : j = i
  · subst hj
    rw [logs_move_self]
    simpa [Threads.move] using hp
  · rw [logs_move_of_ne _ hj]
    simpa [Threads.move, hj] using hw j

theorem Reaches.keeps (Inv : (ι → History I) → σ → Prop)
    {asks : ι → History I → I.Request → Prop} {ends : ι → History I → α → Prop}
    {w w' : Threads I σ ι α} (hdrift : ∀ h s s', E.drifts s s' → Inv h s → Inv h s')
    (hanswer : ∀ h s i r x s', asks i (h i) r → E.answers s r x s' → Inv h s →
      Inv (Function.update h i (h i ++ [⟨r, x⟩])) s')
    (hreach : Reaches E w w') (hw : AsDescribed asks ends w) (hinv : Inv w.logs w.state) :
    Inv w'.logs w'.state ∧ AsDescribed asks ends w' := by
  -- A step leads one procedure along its description and leaves all others where they were.
  induction hreach with
  | refl => exact ⟨hinv, hw⟩
  | @tail u v _ hstep ih =>
      rcases ih with ⟨hinv, hu⟩
      cases hstep with
      | drift hd => exact ⟨hdrift _ _ _ hd hinv, hu⟩
      | @ask i r x next s hrest ha =>
          have hi := hu i
          rw [hrest] at hi
          rw [logs_move]
          exact ⟨hanswer _ _ _ _ _ _ hi.1 ha hinv, hu.move (hi.2 x)⟩
      | @sleep i d p hrest =>
          have hi := hu i
          rw [hrest] at hi
          refine ⟨?_, hu.move (by simpa using hi)⟩
          simpa [logs_move] using hinv
      | @pause i d next e hrest =>
          have hi := hu i
          rw [hrest] at hi
          refine ⟨?_, hu.move (by simpa using hi e)⟩
          simpa [logs_move] using hinv

theorem Reaches.keeps_state {P : σ → Prop} {w w' : Threads I σ ι α}
    (hdrift : ∀ s s', E.drifts s s' → P s → P s')
    (hanswer : ∀ s r x s', E.answers s r x s' → P s → P s')
    (hreach : Reaches E w w') (hP : P w.state) : P w'.state := by
  induction hreach with
  | refl => exact hP
  | tail _ hstep ih =>
      cases hstep with
      | drift hd => exact hdrift _ _ hd ih
      | ask i _ ha => exact hanswer _ _ _ _ ha ih
      | sleep i _ => exact ih
      | pause i e _ => exact ih

/-!
## One at a time
-/

theorem move_nil (w : Threads I σ ι α) (i : ι) :
    w.move i [] w.state (w.threads i).rest = w := by
  have hsame : (⟨(w.threads i).log ++ [], (w.threads i).rest⟩ : Thread I α) = w.threads i := by
    rw [List.append_nil]
  unfold move
  rw [hsame, Function.update_eq_self]

theorem move_move (w : Threads I σ ι α) (i : ι) (a b : History I) (s s' : σ)
    (p q : Procedure I α) : (w.move i a s p).move i b s' q = w.move i (a ++ b) s' q := by
  simp [move]

theorem reaches_of_passes {w : Threads I σ ι α} (i : ι) {log : History I} {s s' : σ}
    {p q : Procedure I α} (pass : Passes E s p log s' q) (hs : w.state = s)
    (hp : (w.threads i).rest = p) : Reaches E w (w.move i log s' q) := by
  induction pass generalizing w with
  | here s p =>
      rw [← hs, ← hp, move_nil]
      exact Relation.ReflTransGen.refl
  | @drift s s₁ s' p q log hd _ ih =>
      subst hs
      exact Relation.ReflTransGen.head (Step.drift hd) (ih rfl hp)
  | @ask s s₁ s' r x next q log ha _ ih =>
      subst hs
      have hlater := ih (w := w.move i [⟨r, x⟩] s₁ (next x)) rfl (rest_move w i _ _ _)
      rw [move_move] at hlater
      exact Relation.ReflTransGen.head (Step.ask i hp ha) hlater
  | @sleep s s' d p q log _ ih =>
      subst hs
      have hlater := ih (w := w.move i [] w.state p) rfl (rest_move w i _ _ _)
      rw [move_move] at hlater
      exact Relation.ReflTransGen.head (Step.sleep i hp) hlater
  | @pause s s' d next q log e _ ih =>
      subst hs
      have hlater := ih (w := w.move i [] w.state (next e)) rfl (rest_move w i _ _ _)
      rw [move_move] at hlater
      exact Relation.ReflTransGen.head (Step.pause i e hp) hlater

end Threads
end Procedure
end PointInTime
