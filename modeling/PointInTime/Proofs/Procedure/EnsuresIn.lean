import PointInTime.Proofs.Procedure.Ensures

/-!
# What a procedure ensures in its surroundings

In surroundings that answer from a state, and where nobody else acts, a procedure is described by
the states it goes through as well as by its exchanges: when it asks for something and how it ends.

Main statements: what is ensured for all answers that the surroundings allow holds of every run that
is told only such answers, at its end and at every one of its requests.
-/

namespace PointInTime

/-- Every answer is allowed, and nobody else acts. -/
def Surroundings.anything (I : Interface) (σ : Type) : Surroundings I σ where
  answers _ _ _ _ := True
  drifts _ _ := False

namespace Procedure

variable {I : Interface} {σ τ α β : Type} {E : Surroundings I σ}
variable {asks : History I → σ → I.Request → Prop} {h : History I} {s : σ}

/-- After a history and in a state every request is one that `asks` allows there, and every end one
that `ends` allows, as long as the surroundings answer. -/
def EnsuresIn (E : Surroundings I σ) (asks : History I → σ → I.Request → Prop)
    (ends : History I → σ → α → Prop) : Procedure I α → History I → σ → Prop
  | .done a, h, s => ends h s a
  | .ask r next, h, s =>
      asks h s r ∧ ∀ x s', E.answers s r x s' → EnsuresIn E asks ends (next x) (h ++ [⟨r, x⟩]) s'
  | .sleep _ next, h, s => EnsuresIn E asks ends next h s
  | .pause _ next, h, s => ∀ w, EnsuresIn E asks ends (next w) h s

@[simp] theorem ensuresIn_done {ends : History I → σ → α → Prop} (a : α) :
    EnsuresIn E asks ends (.done a) h s ↔ ends h s a := Iff.rfl

@[simp] theorem ensuresIn_bind {ends : History I → σ → β → Prop} (p : Procedure I α)
    (f : α → Procedure I β) :
    EnsuresIn E asks ends (bind p f) h s ↔
      EnsuresIn E asks (fun h s a => EnsuresIn E asks ends (f a) h s) p h s := by
  induction p generalizing h s with
  | done a => rfl
  | ask r next ih => simp [EnsuresIn, ih]
  | sleep d next ih => simp [EnsuresIn, ih]
  | pause d next ih => simp [EnsuresIn, ih]

theorem EnsuresIn.mono {ends ends' : History I → σ → α → Prop}
    (hends : ∀ h s a, ends h s a → ends' h s a) {p : Procedure I α}
    (hp : EnsuresIn E asks ends p h s) : EnsuresIn E asks ends' p h s := by
  induction p generalizing h s with
  | done a => exact hends h s a hp
  | ask r next ih => exact ⟨hp.1, fun x s' hx => ih x (hp.2 x s' hx)⟩
  | sleep d next ih => exact ih hp
  | pause d next ih => exact fun w => ih w (hp w)

theorem Ensures.ensuresIn {asks : History I → I.Request → Prop} {ends : History I → α → Prop}
    {p : Procedure I α} (hp : Ensures asks ends p h) :
    EnsuresIn E (fun h _ r => asks h r) (fun h _ a => ends h a) p h s := by
  induction p generalizing h s with
  | done a => exact hp
  | ask r next ih => exact ⟨hp.1, fun x _ _ => ih x (hp.2 x)⟩
  | sleep d next ih => exact ih hp
  | pause d next ih => exact fun w => ih w (hp w)

theorem EnsuresIn.forget_asks {ends : History I → σ → α → Prop} {p : Procedure I α}
    (hp : EnsuresIn E asks ends p h s) : EnsuresIn E (fun _ _ _ => True) ends p h s := by
  induction p generalizing h s with
  | done a => exact hp
  | ask r next ih => exact ⟨trivial, fun x s' hx => ih x (hp.2 x s' hx)⟩
  | sleep d next ih => exact ih hp
  | pause d next ih => exact fun w => ih w (hp w)

/-- What does not speak of the exchanges does not depend on those before. -/
theorem EnsuresIn.anywhere {ends : σ → α → Prop} {p : Procedure I α}
    (hp : EnsuresIn E (fun _ _ _ => True) (fun _ s a => ends s a) p h s) (h' : History I) :
    EnsuresIn E (fun _ _ _ => True) (fun _ s a => ends s a) p h' s := by
  induction p generalizing h h' s with
  | done a => exact hp
  | ask r next ih => exact ⟨trivial, fun x s' hx => ih x (hp.2 x s' hx) _⟩
  | sleep d next ih => exact ih hp h'
  | pause d next ih => exact fun w => ih w (hp w) h'

/-- What is ensured for all answers, and an invariant that every allowed request keeps. -/
theorem Ensures.ensuresIn_of_invariant {asks : History I → I.Request → Prop}
    {ends : History I → α → Prop} {Inv : History I → σ → Prop}
    (hkept : ∀ h s r x s', asks h r → E.answers s r x s' → Inv h s → Inv (h ++ [⟨r, x⟩]) s')
    {p : Procedure I α} (hp : Ensures asks ends p h) (hs : Inv h s) :
    EnsuresIn E (fun h _ r => asks h r) (fun h s a => Inv h s ∧ ends h a) p h s := by
  induction p generalizing h s with
  | done a => exact ⟨hs, hp⟩
  | ask r next ih =>
      refine ⟨hp.1, fun x s' hx => ?_⟩
      exact ih x (hp.2 x) (hkept h s r x s' hp.1 hx hs)
  | sleep d next ih => exact ih hp hs
  | pause d next ih => exact fun w => ih w (hp w) hs

/-!
## Passages

Where nobody else acts, what is ensured holds at the end of every complete passage.
-/

theorem Passes.ends {ends : History I → σ → α → Prop} {p : Procedure I α} {s' : σ}
    {log : History I} {a : α} (hquiet : ∀ s s', ¬ E.drifts s s')
    (pass : Passes E s p log s' (.done a)) (hp : EnsuresIn E asks ends p h s) :
    ends (h ++ log) s' a := by
  generalize hq : Procedure.done a = q at pass
  induction pass generalizing h with
  | here s p =>
      subst hq
      simpa using hp
  | drift hd _ _ => exact absurd hd (hquiet _ _)
  | ask ha _ ih =>
      have hnext := ih (hp.2 _ _ ha) hq
      simpa using hnext
  | sleep _ ih => exact ih hp hq
  | pause w _ ih => exact ih (hp w) hq

/-!
## Runs

What answers may keep more than the state that is spoken of, such as a script; `view` is that state.
-/

variable {answer : (r : I.Request) → τ → I.Answer r × τ} {view : τ → σ}

theorem exchanges_bind (p : Procedure I α) (f : α → Procedure I β) (c : Clock) (t : τ) :
    exchanges answer (bind p f) c t =
      exchanges answer p c t ++
        exchanges answer (f (run answer p c t).1) (run answer p c t).2.1
          (run answer p c t).2.2 := by
  induction p generalizing c t with
  | done a => rfl
  | ask r next ih => simp [exchanges, run, ih]
  | sleep d next ih => simp [exchanges, run, ih]
  | pause d next ih => simp [exchanges, run, ih]

theorem ends_of_ensuresIn (answer : (r : I.Request) → τ → I.Answer r × τ) (view : τ → σ)
    {ends : History I → σ → α → Prop} {p : Procedure I α}
    (honest : ∀ r t, E.answers (view t) r (answer r t).1 (view (answer r t).2)) {t : τ}
    (hp : EnsuresIn E asks ends p h (view t)) (c : Clock) :
    ends (h ++ exchanges answer p c t) (view (run answer p c t).2.2)
      (run answer p c t).1 := by
  induction p generalizing h c t with
  | done a =>
      simpa [exchanges, run] using hp
  | ask r next ih =>
      have hnext := ih _ (hp.2 _ _ (honest r t)) c
      simpa [exchanges, run] using hnext
  | sleep d next ih =>
      exact ih hp (c.advance d)
  | pause d next ih =>
      exact ih _ (hp (c.pauseFor d).1) (c.pauseFor d).2

theorem forall_exchanges_of_ensuresIn (view : τ → σ) {ends : History I → σ → α → Prop}
    {p : Procedure I α} {P : Exchange I → Prop}
    (honest : ∀ r t, E.answers (view t) r (answer r t).1 (view (answer r t).2))
    (hasks : ∀ h r t, asks h (view t) r → P ⟨r, (answer r t).1⟩) {t : τ}
    (hp : EnsuresIn E asks ends p h (view t)) (c : Clock) :
    ∀ e ∈ exchanges answer p c t, P e := by
  induction p generalizing h c t with
  | done a =>
      intro e he
      cases he
  | ask r next ih =>
      intro e he
      rcases List.mem_cons.mp he with rfl | hrest
      · exact hasks h r t hp.1
      · exact ih _ (hp.2 _ _ (honest r t)) c e hrest
  | sleep d next ih =>
      exact ih hp (c.advance d)
  | pause d next ih =>
      exact ih _ (hp (c.pauseFor d).1) (c.pauseFor d).2

end Procedure
end PointInTime
