import PointInTime.Procedure.Run

/-!
# Passages of a procedure

A procedure is a tree with a branch for every answer.  Surroundings say which answers a request may
get and what may happen while the procedure is not looking.  A passage is one way through the tree
in such surroundings: it may stop anywhere, so that what holds at the end of every passage holds at
every moment of every run, and a run that is cut off is a passage too.

A wait leads on in both ways that it can end.  This module relates passages to the runs by which
procedures are carried out.
-/

namespace PointInTime

abbrev Exchange (I : Interface) : Type :=
  (r : I.Request) × I.Answer r

abbrev History (I : Interface) : Type :=
  List (Exchange I)

structure Surroundings (I : Interface) (σ : Type) where
  /-- In a state a request may be answered so, which leads to a state. -/
  answers : σ → (r : I.Request) → I.Answer r → σ → Prop
  /-- What others may do in between. -/
  drifts : σ → σ → Prop

namespace Procedure

variable {I : Interface} {σ α β : Type} {E : Surroundings I σ}

/-- A way from a state with a procedure to a state with what is left of the procedure, and the
exchanges on it. -/
inductive Passes (E : Surroundings I σ) :
    σ → Procedure I α → History I → σ → Procedure I α → Prop where
  | here (s : σ) (p : Procedure I α) : Passes E s p [] s p
  | drift {s s' s'' : σ} {p q : Procedure I α} {log : History I} :
      E.drifts s s' → Passes E s' p log s'' q → Passes E s p log s'' q
  | ask {s s' s'' : σ} {r : I.Request} {x : I.Answer r} {next : I.Answer r → Procedure I α}
      {q : Procedure I α} {log : History I} :
      E.answers s r x s' → Passes E s' (next x) log s'' q →
      Passes E s (.ask r next) (⟨r, x⟩ :: log) s'' q
  | sleep {s s' : σ} {d : Duration} {p q : Procedure I α} {log : History I} :
      Passes E s p log s' q → Passes E s (.sleep d p) log s' q
  | pause {s s' : σ} {d : Duration} {next : Wake → Procedure I α} {q : Procedure I α}
      {log : History I} (w : Wake) :
      Passes E s (next w) log s' q → Passes E s (.pause d next) log s' q

/-- In surroundings that allow more there are more passages. -/
theorem Passes.mono {E' : Surroundings I σ} {s s' : σ} {p q : Procedure I α} {log : History I}
    (hanswers : ∀ s r x s', E.answers s r x s' → E'.answers s r x s')
    (hdrifts : ∀ s s', E.drifts s s' → E'.drifts s s')
    (pass : Passes E s p log s' q) : Passes E' s p log s' q := by
  induction pass with
  | here s p => exact Passes.here s p
  | drift hd _ ih => exact Passes.drift (hdrifts _ _ hd) ih
  | ask ha _ ih => exact Passes.ask (hanswers _ _ _ _ ha) ih
  | sleep _ ih => exact Passes.sleep ih
  | pause w _ ih => exact Passes.pause w ih

theorem Passes.trans {s s' s'' : σ} {p q r : Procedure I α} {log more : History I}
    (first : Passes E s p log s' q) (second : Passes E s' q more s'' r) :
    Passes E s p (log ++ more) s'' r := by
  induction first with
  | here s p => exact second
  | drift hd _ ih => exact Passes.drift hd (ih second)
  | ask ha _ ih => exact Passes.ask ha (ih second)
  | sleep _ ih => exact Passes.sleep (ih second)
  | pause w _ ih => exact Passes.pause w (ih second)

/-!
## Two procedures in a row

A passage through a sequence ends in its first part, or it leads through the first part and ends in
the second.
-/

theorem passes_bind {f : α → Procedure I β} {p : Procedure I α} {s s' : σ} {q : Procedure I β}
    {log : History I} (pass : Passes E s (bind p f) log s' q) :
    (∃ p', Passes E s p log s' p' ∧ q = bind p' f) ∨
      ∃ a before after middle, log = before ++ after ∧
        Passes E s p before middle (.done a) ∧ Passes E middle (f a) after s' q := by
  generalize hp : bind p f = whole at pass
  induction pass generalizing p with
  | here s whole =>
      exact Or.inl ⟨p, Passes.here s p, hp.symm⟩
  | drift hd _ ih =>
      rcases ih hp with ⟨p', hfirst, hq⟩ | ⟨a, before, after, middle, hlog, hfirst, hsecond⟩
      · exact Or.inl ⟨p', Passes.drift hd hfirst, hq⟩
      · exact Or.inr ⟨a, before, after, middle, hlog, Passes.drift hd hfirst, hsecond⟩
  | @ask s _ _ r x _ _ _ ha hnext ih =>
      cases p with
      | done a =>
          have hsecond := Passes.ask ha hnext
          rw [← hp] at hsecond
          exact Or.inr ⟨a, [], _, s, rfl, Passes.here s (.done a), hsecond⟩
      | ask r' next' =>
          cases hp
          rcases ih rfl with ⟨p', hfirst, hq⟩ | ⟨a, before, after, middle, hlog, hfirst, hsecond⟩
          · exact Or.inl ⟨p', Passes.ask ha hfirst, hq⟩
          · exact Or.inr ⟨a, ⟨r, x⟩ :: before, after, middle, by rw [hlog]; rfl,
              Passes.ask ha hfirst, hsecond⟩
      | sleep d next' => cases hp
      | pause d next' => cases hp
  | @sleep s _ d _ _ _ hnext ih =>
      cases p with
      | done a =>
          have hsecond : Passes E s (.sleep d _) _ _ _ := Passes.sleep hnext
          rw [← hp] at hsecond
          exact Or.inr ⟨a, [], _, s, rfl, Passes.here s (.done a), hsecond⟩
      | ask r' next' => cases hp
      | sleep d' next' =>
          cases hp
          rcases ih rfl with ⟨p', hfirst, hq⟩ | ⟨a, before, after, middle, hlog, hfirst, hsecond⟩
          · exact Or.inl ⟨p', Passes.sleep hfirst, hq⟩
          · exact Or.inr ⟨a, before, after, middle, hlog, Passes.sleep hfirst, hsecond⟩
      | pause d' next' => cases hp
  | @pause s _ d next _ _ w hnext ih =>
      cases p with
      | done a =>
          have hsecond : Passes E s (.pause d next) _ _ _ := Passes.pause w hnext
          rw [← hp] at hsecond
          exact Or.inr ⟨a, [], _, s, rfl, Passes.here s (.done a), hsecond⟩
      | ask r' next' => cases hp
      | sleep d' next' => cases hp
      | pause d' next' =>
          cases hp
          rcases ih rfl with ⟨p', hfirst, hq⟩ | ⟨a, before, after, middle, hlog, hfirst, hsecond⟩
          · exact Or.inl ⟨p', Passes.pause w hfirst, hq⟩
          · exact Or.inr ⟨a, before, after, middle, hlog, Passes.pause w hfirst, hsecond⟩

/-!
## Idle passages

Where nothing is left to ask, only others act, as they may at the start of any procedure.
-/

theorem passes_done {a : α} {s s' : σ} {q : Procedure I α} {log : History I}
    (pass : Passes E s (.done a) log s' q) :
    log = [] ∧ ∀ p : Procedure I β, Passes E s p [] s' p := by
  generalize hp : Procedure.done a = p at pass
  induction pass with
  | here s _ =>
      exact ⟨rfl, fun p => Passes.here s p⟩
  | drift hd _ ih =>
      obtain ⟨hlog, hidle⟩ := ih hp
      exact ⟨hlog, fun p => Passes.drift hd (hidle p)⟩
  | ask => cases hp
  | sleep => cases hp
  | pause => cases hp

theorem Passes.eq_of_done {a : α} {s s' : σ} {q : Procedure I α} {log : History I}
    (pass : Passes E s (.done a) log s' q) : q = .done a := by
  generalize hp : Procedure.done a = p at pass
  induction pass with
  | here => rfl
  | drift _ _ ih => exact ih hp
  | ask => cases hp
  | sleep => cases hp
  | pause => cases hp

theorem passes_pause {d : Duration} {next : Wake → Procedure I α} {s s' : σ} {q : Procedure I α}
    {log : History I} (pass : Passes E s (.pause d next) log s' q) :
    q = .pause d next ∨ ∃ w middle, Passes E middle (next w) log s' q := by
  generalize hp : Procedure.pause d next = p at pass
  induction pass with
  | here => exact Or.inl rfl
  | drift _ _ ih => exact ih hp
  | ask => cases hp
  | sleep => cases hp
  | @pause s _ _ _ _ _ w hnext _ =>
      cases hp
      exact Or.inr ⟨w, s, hnext⟩

theorem passes_pauseFor {d : Duration} {s s' : σ} {q : Procedure I Wake} {log : History I}
    (pass : Passes E s (pauseFor d) log s' q) :
    log = [] ∧ ∀ p : Procedure I β, Passes E s p [] s' p := by
  generalize hp : pauseFor d = p at pass
  induction pass with
  | here s _ =>
      exact ⟨rfl, fun p => Passes.here s p⟩
  | drift hd _ ih =>
      obtain ⟨hlog, hidle⟩ := ih hp
      exact ⟨hlog, fun p => Passes.drift hd (hidle p)⟩
  | ask => cases hp
  | sleep => cases hp
  | pause w hend _ =>
      cases hp
      exact passes_done hend

/-!
## Runs as passages

A run asks something definite for its answers.  If everything it is told is an answer that the
surroundings allow, possibly after others have acted, then it is one of their passages, and a
complete one.
-/

def exchanges (answer : (r : I.Request) → σ → I.Answer r × σ) :
    Procedure I α → Clock → σ → History I
  | done _, _, _ => []
  | ask r next, c, s =>
      ⟨r, (answer r s).1⟩ :: exchanges answer (next (answer r s).1) c (answer r s).2
  | sleep d next, c, s => exchanges answer next (c.advance d) s
  | pause d next, c, s => exchanges answer (next (c.pauseFor d).1) (c.pauseFor d).2 s

theorem passes_run {answer : (r : I.Request) → σ → I.Answer r × σ}
    (honest : ∀ r s, ∃ s', (s' = s ∨ E.drifts s s') ∧
      E.answers s' r (answer r s).1 (answer r s).2)
    (p : Procedure I α) (c : Clock) (s : σ) :
    Passes E s p (exchanges answer p c s) (run answer p c s).2.2 (.done (run answer p c s).1) := by
  induction p generalizing c s with
  | done a =>
      exact Passes.here s (.done a)
  | ask r next ih =>
      obtain ⟨s', rfl | hdrift, hanswer⟩ := honest r s
      · exact Passes.ask hanswer (ih _ c _)
      · exact Passes.drift hdrift (Passes.ask hanswer (ih _ c _))
  | sleep d next ih =>
      exact Passes.sleep (ih (c.advance d) s)
  | pause d next ih =>
      exact Passes.pause _ (ih (c.pauseFor d).1 (c.pauseFor d).2 s)

/-- A run whose states are seen through a view is a passage if every exchange of it is one. -/
theorem passes_run_of_steps {τ : Type} {view : τ → σ} (Inv : τ → Prop) (fits : I.Request → Prop)
    {answer : (r : I.Request) → τ → I.Answer r × τ}
    (hstep : ∀ r t, Inv t → fits r → Inv (answer r t).2 ∧
      ∀ next : I.Answer r → Procedure I α,
        Passes E (view t) (.ask r next) [⟨r, (answer r t).1⟩] (view (answer r t).2)
          (next (answer r t).1))
    (p : Procedure I α) (c : Clock) (t : τ) (ht : Inv t)
    (hfits : ∀ e ∈ exchanges answer p c t, fits e.1) :
    Passes E (view t) p (exchanges answer p c t) (view (run answer p c t).2.2)
      (.done (run answer p c t).1) := by
  induction p generalizing c t with
  | done a =>
      exact Passes.here (view t) (.done a)
  | ask r next ih =>
      rcases hstep r t ht (hfits _ List.mem_cons_self) with ⟨hkept, hexchange⟩
      exact (hexchange next).trans
        (ih _ c _ hkept fun e he => hfits e (List.mem_cons_of_mem _ he))
  | sleep d next ih =>
      exact Passes.sleep (ih (c.advance d) t ht hfits)
  | pause d next ih =>
      exact Passes.pause _ (ih (c.pauseFor d).1 (c.pauseFor d).2 t ht hfits)

/-- The first requests of a procedure, up to a wait: what is left of it, what was exchanged, and the
state. -/
def advance (answer : (r : I.Request) → σ → I.Answer r × σ) :
    Nat → Procedure I α → σ → Procedure I α × History I × σ
  | n + 1, .ask r next, s =>
      let (q, log, s') := advance answer n (next (answer r s).1) (answer r s).2
      (q, ⟨r, (answer r s).1⟩ :: log, s')
  | _, p, s => (p, [], s)

theorem passes_advance {answer : (r : I.Request) → σ → I.Answer r × σ}
    (honest : ∀ r s, E.answers s r (answer r s).1 (answer r s).2) (n : Nat) (p : Procedure I α)
    (s : σ) :
    Passes E s p (advance answer n p s).2.1 (advance answer n p s).2.2
      (advance answer n p s).1 := by
  induction n generalizing p s with
  | zero => exact Passes.here s p
  | succ n ih =>
      cases p with
      | ask r next => exact Passes.ask (honest r s) (ih _ _)
      | done a => exact Passes.here s _
      | sleep d next => exact Passes.here s _
      | pause d next => exact Passes.here s _

end Procedure
end PointInTime
