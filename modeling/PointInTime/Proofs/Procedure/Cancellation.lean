import PointInTime.Proofs.Procedure.Passage
import PointInTime.Procedure.Poll
import PointInTime.Procedure.Retry

/-!
# After a cancellation

A cancellation is noticed at pauses only.  Whatever lies between two pauses is carried through, and
so are sleeps.  A pause that takes time is cut short; of one that takes none both ends are possible.

This module counts what a procedure may still ask for.  What is counted is a list of kinds of
requests: the requests that are left are some of them, in this order.

Main statement: following something to its end looks once more at most, wherever the cancellation
comes.
-/

namespace PointInTime
namespace Procedure

variable {I : Interface} {σ α β κ : Type} {E : Surroundings I σ}

/-!
## Passages after the cancellation
-/

/-- How a pause may end once the cancellation has come. -/
def Cuts (d : Duration) (w : Wake) : Prop :=
  0 < d.millis → w = .cancelled

/-- A passage after the cancellation. -/
inductive PassesCancelled (E : Surroundings I σ) :
    σ → Procedure I α → History I → σ → Procedure I α → Prop where
  | here (s : σ) (p : Procedure I α) : PassesCancelled E s p [] s p
  | drift {s s' s'' : σ} {p q : Procedure I α} {log : History I} :
      E.drifts s s' → PassesCancelled E s' p log s'' q → PassesCancelled E s p log s'' q
  | ask {s s' s'' : σ} {r : I.Request} {x : I.Answer r} {next : I.Answer r → Procedure I α}
      {q : Procedure I α} {log : History I} :
      E.answers s r x s' → PassesCancelled E s' (next x) log s'' q →
      PassesCancelled E s (.ask r next) (⟨r, x⟩ :: log) s'' q
  | sleep {s s' : σ} {d : Duration} {p q : Procedure I α} {log : History I} :
      PassesCancelled E s p log s' q → PassesCancelled E s (.sleep d p) log s' q
  | pause {s s' : σ} {d : Duration} {next : Wake → Procedure I α} {q : Procedure I α}
      {log : History I} (w : Wake) :
      Cuts d w → PassesCancelled E s (next w) log s' q →
      PassesCancelled E s (.pause d next) log s' q

theorem PassesCancelled.passes {s s' : σ} {p q : Procedure I α} {log : History I}
    (pass : PassesCancelled E s p log s' q) : Passes E s p log s' q := by
  induction pass with
  | here s p => exact Passes.here s p
  | drift hd _ ih => exact Passes.drift hd ih
  | ask ha _ ih => exact Passes.ask ha ih
  | sleep _ ih => exact Passes.sleep ih
  | pause w _ _ ih => exact Passes.pause w ih

/-- The clock has reached the cancellation. -/
def HasFired (c : Clock) : Prop :=
  ∃ t, c.cancelAt = some t ∧ t ≤ c.now

theorem HasFired.advance {c : Clock} (hc : HasFired c) (d : Duration) :
    HasFired (c.advance d) := by
  rcases hc with ⟨t, hcancel, hnow⟩
  exact ⟨t, hcancel, Nat.le_trans hnow (Nat.le_add_right _ _)⟩

theorem HasFired.pauseFor {c : Clock} (hc : HasFired c) (d : Duration) :
    (c.pauseFor d).1 = .cancelled ∧ HasFired (c.pauseFor d).2 := by
  rcases hc with ⟨t, hcancel, hnow⟩
  have hends : c.pauseFor d = (.cancelled, { c with now := max c.now t }) := by
    simp [Clock.pauseFor, hcancel, hnow]
  rw [hends]
  exact ⟨rfl, t, hcancel, Nat.le_max_right _ _⟩

/-- A run on a clock that has reached the cancellation is a passage after it. -/
theorem passesCancelled_run {answer : (r : I.Request) → σ → I.Answer r × σ}
    (honest : ∀ r s, ∃ s', (s' = s ∨ E.drifts s s') ∧
      E.answers s' r (answer r s).1 (answer r s).2)
    (p : Procedure I α) {c : Clock} (hc : HasFired c) (s : σ) :
    PassesCancelled E s p (exchanges answer p c s) (run answer p c s).2.2
      (.done (run answer p c s).1) := by
  induction p generalizing c s with
  | done a =>
      exact PassesCancelled.here s (.done a)
  | ask r next ih =>
      rcases honest r s with ⟨s', hs', hanswer⟩
      have hnext := PassesCancelled.ask hanswer (ih _ hc _)
      rcases hs' with rfl | hdrift
      · exact hnext
      · exact PassesCancelled.drift hdrift hnext
  | sleep d next ih =>
      exact PassesCancelled.sleep (ih (hc.advance d) s)
  | pause d next ih =>
      rcases hc.pauseFor d with ⟨hcut, hlater⟩
      exact PassesCancelled.pause _ (fun _ => hcut) (ih _ hlater s)

/-!
## What is left to ask
-/

variable {kind : I.Request → κ} {ends : β → Prop} {l l₁ l₂ : List κ}

/-- After the cancellation, a procedure asks for a part of a list at most, and ends so. -/
def Closes (kind : I.Request → κ) (ends : α → Prop) : List κ → Procedure I α → Prop
  | _, .done a => ends a
  | l, .ask r next => ∃ rest, (kind r :: rest).Sublist l ∧ ∀ x, Closes kind ends rest (next x)
  | l, .sleep _ p => Closes kind ends l p
  | l, .pause d next => ∀ w, Cuts d w → Closes kind ends l (next w)

theorem Closes.mono {ends ends' : α → Prop} {p : Procedure I α} (hp : Closes kind ends l p)
    (hl : l.Sublist l₁) (hends : ∀ a, ends a → ends' a) : Closes kind ends' l₁ p := by
  induction p generalizing l l₁ with
  | done a => exact hends a hp
  | ask r next ih =>
      rcases hp with ⟨rest, hrest, hnext⟩
      exact ⟨rest, hrest.trans hl, fun x => ih x (hnext x) (List.Sublist.refl rest)⟩
  | sleep d next ih => exact ih hp hl
  | pause d next ih => exact fun w hw => ih w (hp w hw) hl

theorem closes_bind {first : α → Prop} {p : Procedure I α} {f : α → Procedure I β}
    (hp : Closes kind first l₁ p) (hf : ∀ a, first a → Closes kind ends l₂ (f a)) :
    Closes kind ends (l₁ ++ l₂) (bind p f) := by
  induction p generalizing l₁ with
  | done a =>
      exact (hf a hp).mono (List.sublist_append_right l₁ l₂) (fun _ hb => hb)
  | ask r next ih =>
      rcases hp with ⟨rest, hrest, hnext⟩
      exact ⟨rest ++ l₂, hrest.append_right l₂, fun x => ih x (hnext x)⟩
  | sleep d next ih => exact ih hp
  | pause d next ih => exact fun w hw => ih w (hp w hw)

/-- A pause that takes time is cut short. -/
theorem closes_pause {ends : α → Prop} {d : Duration} {next : Wake → Procedure I α}
    (hd : 0 < d.millis) (hnext : Closes kind ends l (next .cancelled)) :
    Closes kind ends l (.pause d next) := by
  intro w hw
  rw [hw hd]
  exact hnext

theorem PassesCancelled.closes {ends : α → Prop} {s s' : σ} {p q : Procedure I α}
    {log : History I} (pass : PassesCancelled E s p log s' q) (hp : Closes kind ends l p) :
    (log.map fun e => kind e.1).Sublist l ∧ ∀ a, q = .done a → ends a := by
  induction pass generalizing l with
  | here s p =>
      refine ⟨List.nil_sublist l, ?_⟩
      rintro a rfl
      exact hp
  | drift _ _ ih => exact ih hp
  | ask _ _ ih =>
      rcases hp with ⟨rest, hrest, hnext⟩
      rcases ih (hnext _) with ⟨hlog, hend⟩
      exact ⟨(hlog.cons_cons _).trans hrest, hend⟩
  | sleep _ ih => exact ih hp
  | pause w hw _ ih => exact ih (hp w hw)

/-- A run that is cancelled returns, and what it returns is an end. -/
theorem Closes.run {ends : α → Prop} {τ : Type} {p : Procedure I α} (hp : Closes kind ends l p)
    (answer : (r : I.Request) → τ → I.Answer r × τ) {c : Clock} (hc : HasFired c) (t : τ) :
    ends (Procedure.run answer p c t).1 := by
  induction p generalizing l c t with
  | done a => exact hp
  | ask r next ih =>
      rcases hp with ⟨rest, -, hnext⟩
      exact ih _ (hnext _) hc _
  | sleep d next ih => exact ih hp (hc.advance d) t
  | pause d next ih =>
      rcases hc.pauseFor d with ⟨hcut, hlater⟩
      exact ih _ (hp _ fun _ => hcut) hlater t

/-!
## At every moment

The cancellation may come at any moment of a procedure.  What comes after a moment of the first of
two parts is the rest of this part and then the other part, as it is when it is cancelled from its
start.
-/

/-- Something holds of what is left of a procedure, at every moment. -/
def Always (P : Procedure I α → Prop) : Procedure I α → Prop
  | .done a => P (.done a)
  | .ask r next => P (.ask r next) ∧ ∀ x, Always P (next x)
  | .sleep d p => P (.sleep d p) ∧ Always P p
  | .pause d next => P (.pause d next) ∧ ∀ w, Always P (next w)

theorem Always.here {P : Procedure I α → Prop} {p : Procedure I α} (hp : Always P p) : P p := by
  cases p with
  | done a => exact hp
  | ask r next => exact hp.1
  | sleep d next => exact hp.1
  | pause d next => exact hp.1

theorem Always.mono {P Q : Procedure I α → Prop} {p : Procedure I α} (hp : Always P p)
    (h : ∀ q, P q → Q q) : Always Q p := by
  induction p with
  | done a => exact h _ hp
  | ask r next ih => exact ⟨h _ hp.1, fun x => ih x (hp.2 x)⟩
  | sleep d next ih => exact ⟨h _ hp.1, ih hp.2⟩
  | pause d next ih => exact ⟨h _ hp.1, fun w => ih w (hp.2 w)⟩

theorem Passes.always {P : Procedure I α → Prop} {s s' : σ} {p q : Procedure I α}
    {log : History I} (pass : Passes E s p log s' q) (hp : Always P p) : Always P q := by
  induction pass with
  | here s p => exact hp
  | drift _ _ ih => exact ih hp
  | ask _ _ ih => exact ih (hp.2 _)
  | sleep _ ih => exact ih hp.2
  | pause w _ ih => exact ih (hp.2 w)

/-- Whenever the cancellation comes, a procedure asks for a part of a list at most. -/
def AlwaysCloses (kind : I.Request → κ) (l : List κ) (p : Procedure I α) : Prop :=
  Always (Closes kind (fun _ => True) l) p

theorem AlwaysCloses.mono {p : Procedure I α} (hp : AlwaysCloses kind l p) (hl : l.Sublist l₁) :
    AlwaysCloses kind l₁ p :=
  Always.mono hp fun _ hq => hq.mono hl fun _ ha => ha

theorem alwaysCloses_done (a : α) : AlwaysCloses kind l (.done a : Procedure I α) :=
  trivial

theorem alwaysCloses_request (r : I.Request) : AlwaysCloses kind [kind r] (request r) :=
  ⟨⟨[], List.Sublist.refl _, fun _ => trivial⟩, fun _ => trivial⟩

/-- The part that follows is looked at twice: cancelled from its start, and at its moments. -/
theorem alwaysCloses_bind_of {p : Procedure I α} {f : α → Procedure I β}
    (hp : AlwaysCloses kind l₁ p) (hstart : ∀ a, Closes kind (fun _ => True) l₂ (f a))
    (hf : ∀ a, AlwaysCloses kind (l₁ ++ l₂) (f a)) : AlwaysCloses kind (l₁ ++ l₂) (bind p f) := by
  have hmoment (q : Procedure I α) (hq : Closes kind (fun _ => True) l₁ q) :
      Closes kind (fun _ => True) (l₁ ++ l₂) (bind q f) :=
    closes_bind hq fun a _ => hstart a
  induction p with
  | done a => exact hf a
  | ask r next ih => exact ⟨hmoment _ hp.1, fun x => ih x (hp.2 x)⟩
  | sleep d next ih => exact ⟨hmoment _ hp.1, ih hp.2⟩
  | pause d next ih => exact ⟨hmoment _ hp.1, fun w => ih w (hp.2 w)⟩

theorem alwaysCloses_bind {p : Procedure I α} {f : α → Procedure I β}
    (hp : AlwaysCloses kind l₁ p) (hf : ∀ a, AlwaysCloses kind l₂ (f a)) :
    AlwaysCloses kind (l₁ ++ l₂) (bind p f) :=
  alwaysCloses_bind_of hp (fun a => (hf a).here)
    fun a => (hf a).mono (List.sublist_append_right l₁ l₂)

theorem alwaysCloses_bind_nil {p : Procedure I α} {f : α → Procedure I β}
    (hp : AlwaysCloses kind l p) (hf : ∀ a, AlwaysCloses kind [] (f a)) :
    AlwaysCloses kind l (bind p f) := by
  rw [← List.append_nil l]
  exact alwaysCloses_bind hp hf

/-!
## Repetitions
-/

theorem closes_shown {p : Procedure I (Option α)} (h : p.Shows)
    (hp : Closes kind (fun _ => True) l p) : Closes kind (fun _ => True) l (p.shown h) := by
  induction p generalizing l with
  | done result => trivial
  | ask r next ih =>
      rcases hp with ⟨rest, hrest, hnext⟩
      exact ⟨rest, hrest, fun x => ih x (h x) (hnext x)⟩
  | sleep d next ih => exact ih h hp
  | pause d next ih => exact fun w hw => ih w (h w) (hp w hw)

theorem alwaysCloses_shown {p : Procedure I (Option α)} (h : p.Shows)
    (hp : AlwaysCloses kind l p) : AlwaysCloses kind l (p.shown h) := by
  induction p with
  | done result => trivial
  | ask r next ih => exact ⟨closes_shown h hp.1, fun x => ih x (h x) (hp.2 x)⟩
  | sleep d next ih => exact ⟨closes_shown h hp.1, ih h hp.2⟩
  | pause d next ih => exact ⟨closes_shown h hp.1, fun w => ih w (h w) (hp.2 w)⟩

theorem alwaysCloses_retryFrom {k : κ} {attempt : Procedure I (Except Error α)}
    (hattempt : AlwaysCloses kind [k] attempt) (policy : RetryPolicy) (fuel made : Nat)
    (delay : Duration) :
    AlwaysCloses kind (List.replicate fuel k) (retryFrom policy attempt fuel made delay) := by
  induction fuel generalizing made delay with
  | zero => exact alwaysCloses_done _
  | succ fuel ih =>
      rw [List.replicate_succ]
      show AlwaysCloses kind ([k] ++ List.replicate fuel k) (bind attempt _)
      apply alwaysCloses_bind hattempt
      intro x
      cases x with
      | ok a => exact alwaysCloses_done _
      | error e =>
          show AlwaysCloses kind _ (if _ then _ else _)
          split
          · exact alwaysCloses_done _
          · exact ⟨(ih _ _).here, ih _ _⟩

theorem alwaysCloses_retryLimited {k : κ} {attempt : Procedure I (Except Error α)}
    (hattempt : AlwaysCloses kind [k] attempt) (policy : RetryPolicy)
    (hlimit : 0 < policy.maxAttempts) :
    AlwaysCloses kind (List.replicate policy.maxAttempts k) (retryLimited policy hlimit attempt) :=
  alwaysCloses_shown _ (alwaysCloses_retryFrom hattempt policy _ _ _)

/-- Each look is followed by a pause that takes time, so that a cancelled wait ends after it. -/
theorem alwaysCloses_followWithin {γ τ : Type} {interval : Duration}
    (hinterval : 0 < interval.millis) {look : τ → Procedure I (γ ⊕ τ)}
    (hlook : ∀ seen, AlwaysCloses kind l (look seen)) (seen : τ) (left : Nat) :
    AlwaysCloses kind l (followWithin interval look seen left) := by
  induction left using Nat.strongRecOn generalizing seen with
  | ind left ih =>
      rw [followWithin, ← List.append_nil l]
      apply alwaysCloses_bind_of (hlook seen)
      · intro r
        cases r with
        | inl result => trivial
        | inr seen' =>
            by_cases hleft : left = 0
            · simp only [hleft, dite_true]
              trivial
            · simp only [hleft, dite_false]
              exact closes_pause (Nat.lt_min.mpr ⟨hinterval, Nat.pos_of_ne_zero hleft⟩) trivial
      · intro r
        rw [List.append_nil]
        cases r with
        | inl result => trivial
        | inr seen' =>
            by_cases hleft : left = 0
            · simp only [hleft, dite_true]
              trivial
            · simp only [hleft, dite_false]
              constructor
              · exact closes_pause (Nat.lt_min.mpr ⟨hinterval, Nat.pos_of_ne_zero hleft⟩) trivial
              · intro w
                cases w with
                | cancelled => trivial
                | elapsed => exact ih _ (by omega) seen'

end Procedure
end PointInTime
