import PointInTime.Proofs.Procedure.Passage
import PointInTime.Procedure.Poll
import PointInTime.Procedure.Retry

/-!
# What a procedure ensures

A procedure is described by when it asks for something and how it ends, both in terms of the
exchanges before.  The description is computed along the tree, for every answer and every end of a
wait, and is therefore independent of what the procedure meets.

Main statement: an invariant of states that every allowed request keeps holds at every moment of
every passage, and there the description of the procedure still holds of what is left of it.
-/

namespace PointInTime
namespace Procedure

variable {I : Interface} {σ α β γ : Type}
variable {asks : History I → I.Request → Prop} {h : History I}

/-- After a history every request is one that `asks` allows there, and every end one that `ends`
allows. -/
def Ensures (asks : History I → I.Request → Prop) (ends : History I → α → Prop) :
    Procedure I α → History I → Prop
  | .done a, h => ends h a
  | .ask r next, h => asks h r ∧ ∀ x, Ensures asks ends (next x) (h ++ [⟨r, x⟩])
  | .sleep _ next, h => Ensures asks ends next h
  | .pause _ next, h => ∀ w, Ensures asks ends (next w) h

@[simp] theorem ensures_done {ends : History I → α → Prop} (a : α) :
    Ensures asks ends (.done a) h ↔ ends h a := Iff.rfl

@[simp] theorem ensures_ask {ends : History I → α → Prop} (r : I.Request)
    (next : I.Answer r → Procedure I α) :
    Ensures asks ends (.ask r next) h ↔
      asks h r ∧ ∀ x, Ensures asks ends (next x) (h ++ [⟨r, x⟩]) := Iff.rfl

@[simp] theorem ensures_sleep {ends : History I → α → Prop} (d : Duration) (p : Procedure I α) :
    Ensures asks ends (.sleep d p) h ↔ Ensures asks ends p h := Iff.rfl

@[simp] theorem ensures_pause {ends : History I → α → Prop} (d : Duration)
    (next : Wake → Procedure I α) :
    Ensures asks ends (.pause d next) h ↔ ∀ w, Ensures asks ends (next w) h := Iff.rfl

@[simp] theorem ensures_bind {ends : History I → β → Prop} (p : Procedure I α)
    (f : α → Procedure I β) :
    Ensures asks ends (bind p f) h ↔ Ensures asks (fun h a => Ensures asks ends (f a) h) p h := by
  induction p generalizing h with
  | done a => rfl
  | ask r next ih => simp [ih]
  | sleep d next ih => simp [ih]
  | pause d next ih => simp [ih]

theorem Ensures.mono {asks' : History I → I.Request → Prop} {ends ends' : History I → α → Prop}
    (hasks : ∀ more r, asks (h ++ more) r → asks' (h ++ more) r)
    (hends : ∀ more a, ends (h ++ more) a → ends' (h ++ more) a)
    {p : Procedure I α} (hp : Ensures asks ends p h) : Ensures asks' ends' p h := by
  induction p generalizing h with
  | done a =>
      simpa using hends [] a (by simpa using hp)
  | ask r next ih =>
      refine ⟨by simpa using hasks [] r (by simpa using hp.1), fun x => ?_⟩
      apply ih x _ _ (hp.2 x)
      · intro more r'
        simpa using hasks (⟨r, x⟩ :: more) r'
      · intro more a
        simpa using hends (⟨r, x⟩ :: more) a
  | sleep d next ih =>
      exact ih hasks hends hp
  | pause d next ih =>
      exact fun w => ih w hasks hends (hp w)

theorem Ensures.and {asks' : History I → I.Request → Prop} {ends ends' : History I → α → Prop}
    {p : Procedure I α} (hp : Ensures asks ends p h) (hp' : Ensures asks' ends' p h) :
    Ensures (fun h r => asks h r ∧ asks' h r) (fun h a => ends h a ∧ ends' h a) p h := by
  induction p generalizing h with
  | done a => exact ⟨hp, hp'⟩
  | ask r next ih => exact ⟨⟨hp.1, hp'.1⟩, fun x => ih x (hp.2 x) (hp'.2 x)⟩
  | sleep d next ih => exact ih hp hp'
  | pause d next ih => exact fun w => ih w (hp w) (hp' w)

/-- What every request is that is asked for holds of all of them in the end. -/
theorem Ensures.collect {P : I.Request → Prop} {ends : History I → α → Prop}
    (hasks : ∀ h r, asks h r → P r) {p : Procedure I α} (hp : Ensures asks ends p h)
    (hh : ∀ e ∈ h, P e.1) :
    Ensures asks (fun h' a => ends h' a ∧ ∀ e ∈ h', P e.1) p h := by
  induction p generalizing h with
  | done a => exact ⟨hp, hh⟩
  | ask r next ih =>
      refine ⟨hp.1, fun x => ih x (hp.2 x) ?_⟩
      intro e he
      rcases List.mem_append.mp he with hbefore | hnow
      · exact hh e hbefore
      · rw [List.mem_singleton.mp hnow]
        exact hasks h r hp.1
  | sleep d next ih => exact ih hp hh
  | pause d next ih => exact fun w => ih w (hp w) hh

/-!
## The way that was taken
-/

/-- A procedure that is answered as a history says ends with a result. -/
inductive Leads : Procedure I α → History I → α → Prop where
  | done (a : α) : Leads (.done a) [] a
  | ask {r : I.Request} {x : I.Answer r} {next : I.Answer r → Procedure I α} {log : History I}
      {a : α} : Leads (next x) log a → Leads (.ask r next) (⟨r, x⟩ :: log) a
  | sleep {d : Duration} {p : Procedure I α} {log : History I} {a : α} :
      Leads p log a → Leads (.sleep d p) log a
  | pause {d : Duration} {next : Wake → Procedure I α} {log : History I} {a : α} (w : Wake) :
      Leads (next w) log a → Leads (.pause d next) log a

theorem ensures_leads (p : Procedure I α) (h : History I) :
    Ensures (fun _ _ => True) (fun h' a => ∃ log, h' = h ++ log ∧ Leads p log a) p h := by
  induction p generalizing h with
  | done a => exact ⟨[], (List.append_nil h).symm, Leads.done a⟩
  | ask r next ih =>
      refine ⟨trivial, fun x => (ih x (h ++ [⟨r, x⟩])).mono (fun _ _ hr => hr) ?_⟩
      rintro _ a ⟨log, hlog, hlead⟩
      exact ⟨⟨r, x⟩ :: log, by rw [hlog, List.append_assoc]; rfl, Leads.ask hlead⟩
  | sleep d next ih =>
      refine (ih h).mono (fun _ _ hr => hr) ?_
      rintro _ a ⟨log, hlog, hlead⟩
      exact ⟨log, hlog, Leads.sleep hlead⟩
  | pause d next ih =>
      refine fun w => (ih w h).mono (fun _ _ hr => hr) ?_
      rintro _ a ⟨log, hlog, hlead⟩
      exact ⟨log, hlog, Leads.pause w hlead⟩

theorem Leads.ends {ends : History I → α → Prop} {p : Procedure I α} {log : History I} {a : α}
    (hlead : Leads p log a) (hp : Ensures asks ends p h) : ends (h ++ log) a := by
  induction hlead generalizing h with
  | done a => simpa using hp
  | @ask r x next log a _ ih => simpa using ih (hp.2 x)
  | sleep _ ih => exact ih hp
  | pause w _ ih => exact ih (hp w)

/-!
## Repetitions

What is repeated is described by an invariant of the history, which every round that is followed by
another one has to keep.
-/

theorem ensures_shown {ends : History I → α → Prop} {p : Procedure I (Option α)} (hp : p.Shows)
    (hends : Ensures asks (fun h' result => ∀ a, result = some a → ends h' a) p h) :
    Ensures asks ends (p.shown hp) h := by
  rw [← bind_shown p hp, ensures_bind] at hends
  refine hends.mono (fun _ _ hr => hr) ?_
  intro more a ha
  exact ha a rfl

theorem ensures_retryFrom (Inv : History I → Prop) {ends : History I → Except Error α → Prop}
    {attempt : Procedure I (Except Error α)} (policy : RetryPolicy)
    (hattempt : ∀ h, Inv h →
      Ensures asks (fun h' x => ends h' x ∧ ∀ e, x = .error e → Inv h') attempt h)
    (fuel made : Nat) (delay : Duration) (hh : Inv h) :
    Ensures asks (fun h' result => ∀ x, result = some x → ends h' x)
      (retryFrom policy attempt fuel made delay) h := by
  induction fuel generalizing h made delay with
  | zero =>
      intro x hx
      cases hx
  | succ fuel ih =>
      rw [retryFrom, ensures_bind]
      refine (hattempt h hh).mono (fun _ _ hr => hr) ?_
      intro more x hx
      cases x with
      | ok a =>
          rintro _ ⟨⟩
          exact hx.1
      | error e =>
          by_cases hstops : (!e.isRetryable || policy.isExhausted (made + 1)) = true
          · simp only [hstops, if_true]
            rintro _ ⟨⟩
            exact hx.1
          · simp only [hstops]
            exact ih _ _ (hx.2 e rfl)

theorem ensures_retryLimited (Inv : History I → Prop) {ends : History I → Except Error α → Prop}
    {attempt : Procedure I (Except Error α)} (policy : RetryPolicy)
    (hlimit : 0 < policy.maxAttempts)
    (hattempt : ∀ h, Inv h →
      Ensures asks (fun h' x => ends h' x ∧ ∀ e, x = .error e → Inv h') attempt h)
    (hh : Inv h) : Ensures asks ends (retryLimited policy hlimit attempt) h :=
  ensures_shown _ (ensures_retryFrom Inv policy hattempt _ _ _ hh)

theorem ensures_followWithin {τ : Type} (Inv : History I → Prop)
    {ends : History I → FollowEnd β τ → Prop} {look : τ → Procedure I (β ⊕ τ)}
    (interval : Duration)
    (hlook : ∀ h seen, Inv h →
      Ensures asks
        (fun h' r => match r with
          | .inl b => ends h' (.decided b)
          | .inr seen' => Inv h' ∧ ends h' (.expired seen') ∧ ends h' .cancelled)
        (look seen) h)
    (seen : τ) (left : Nat) (hh : Inv h) :
    Ensures asks ends (followWithin interval look seen left) h := by
  induction left using Nat.strongRecOn generalizing h seen with
  | ind left ih =>
      rw [followWithin, ensures_bind]
      refine (hlook h seen hh).mono (fun _ _ hr => hr) ?_
      intro more r hr
      cases r with
      | inl b =>
          exact hr
      | inr seen' =>
          obtain ⟨hinv, hexpired, hcancelled⟩ := hr
          by_cases hleft : left = 0
          · simpa [hleft] using hexpired
          · simp only [hleft, dite_false, ensures_pause]
            intro w
            cases w with
            | cancelled => exact hcancelled
            | elapsed => exact ih _ (by omega) seen' hinv

/-!
## Every moment of every passage
-/

theorem Passes.keeps {Inv : History I → σ → Prop} {ends : History I → α → Prop}
    {E : Surroundings I σ} {s s' : σ} {p q : Procedure I α} {log : History I}
    (hdrift : ∀ h s s', E.drifts s s' → Inv h s → Inv h s')
    (hanswer : ∀ h s r x s', asks h r → E.answers s r x s' → Inv h s → Inv (h ++ [⟨r, x⟩]) s')
    (pass : Passes E s p log s' q) (hp : Ensures asks ends p h) (hs : Inv h s) :
    Inv (h ++ log) s' ∧ Ensures asks ends q (h ++ log) := by
  induction pass generalizing h with
  | here s p =>
      simpa using And.intro hs hp
  | drift hd _ ih =>
      exact ih hp (hdrift h _ _ hd hs)
  | ask ha _ ih =>
      have hnext := ih (hp.2 _) (hanswer h _ _ _ _ hp.1 ha hs)
      simpa using hnext
  | sleep _ ih =>
      exact ih hp hs
  | pause w _ ih =>
      exact ih (hp w) hs

end Procedure
end PointInTime
