import PointInTime.Proofs.Procedure.Prompt

/-!
# The course of a procedure

A course is a whole way through a procedure on a clock: what was exchanged until the procedure
ended, and when.  Requests take no time and are answered with anything; how a pause ends is decided
by the clock.

Main statements: every run has a course, and the courses of the repetitions of one request tell how
they end.  The request was made often enough within the time that was left, everything before its
last answer was reason to make it again, and that answer decides the end, unless the time was up.
-/

namespace PointInTime

namespace Clock

theorem cancelAt_pauseFor (c : Clock) (d : Duration) :
    (c.pauseFor d).2.cancelAt = c.cancelAt := by
  unfold pauseFor
  split
  · split <;> rfl
  · rfl

theorem pauseFor_of_elapsed {c : Clock} {d : Duration} (h : (c.pauseFor d).1 = .elapsed) :
    (c.pauseFor d).2 = c.advance d := by
  unfold pauseFor at h ⊢
  split
  · split
    · rename_i hcancel hreached
      simp [hcancel, hreached] at h
    · rfl
  · rfl

theorem cancelAt_of_cancelled {c : Clock} {d : Duration} (h : (c.pauseFor d).1 = .cancelled) :
    c.cancelAt ≠ none := by
  intro hnever
  simp [pauseFor, hnever] at h

end Clock

namespace Procedure

/-- Exchanges and the times at which they were made. -/
abbrev Chronicle (I : Interface) : Type :=
  List (Nat × Exchange I)

variable {I : Interface} {α β σ τ : Type} {c c' : Clock} {log : Chronicle I}

/-- From a clock a procedure goes on, with exchanges, to a clock at which it ends with a result. -/
inductive Lasts : Clock → Procedure I α → Chronicle I → Clock → α → Prop where
  | done (c : Clock) (a : α) : Lasts c (.done a) [] c a
  | ask {c c' : Clock} {r : I.Request} {x : I.Answer r} {next : I.Answer r → Procedure I α}
      {log : Chronicle I} {a : α} :
      Lasts c (next x) log c' a → Lasts c (.ask r next) ((c.now, ⟨r, x⟩) :: log) c' a
  | sleep {c c' : Clock} {d : Duration} {p : Procedure I α} {log : Chronicle I} {a : α} :
      Lasts (c.advance d) p log c' a → Lasts c (.sleep d p) log c' a
  | pause {c c' : Clock} {d : Duration} {next : Wake → Procedure I α} {log : Chronicle I} {a : α} :
      Lasts (c.pauseFor d).2 (next (c.pauseFor d).1) log c' a → Lasts c (.pause d next) log c' a

theorem lasts_bind {f : α → Procedure I β} {p : Procedure I α} {b : β}
    (course : Lasts c (bind p f) log c' b) :
    ∃ a before after middle, log = before ++ after ∧ Lasts c p before middle a ∧
      Lasts middle (f a) after c' b := by
  induction p generalizing c log with
  | done a => exact ⟨a, [], log, c, rfl, Lasts.done c a, course⟩
  | ask r next ih =>
      cases course with
      | ask hnext =>
          rcases ih _ hnext with ⟨a, before, after, middle, hlog, hfirst, hsecond⟩
          exact ⟨a, _ :: before, after, middle, by rw [hlog]; rfl, Lasts.ask hfirst, hsecond⟩
  | sleep d next ih =>
      cases course with
      | sleep hnext =>
          rcases ih hnext with ⟨a, before, after, middle, hlog, hfirst, hsecond⟩
          exact ⟨a, before, after, middle, hlog, Lasts.sleep hfirst, hsecond⟩
  | pause d next ih =>
      cases course with
      | pause hnext =>
          rcases ih _ hnext with ⟨a, before, after, middle, hlog, hfirst, hsecond⟩
          exact ⟨a, before, after, middle, hlog, Lasts.pause hfirst, hsecond⟩

/-- One request, and what becomes of its answer. -/
theorem lasts_ask_bind {r : I.Request} {read : I.Answer r → α} {p : Procedure I α}
    {f : α → Procedure I β} {b : β} (hp : p = .ask r fun x => .done (read x))
    (course : Lasts c (bind p f) log c' b) :
    ∃ x rest, log = (c.now, ⟨r, x⟩) :: rest ∧ Lasts c (f (read x)) rest c' b := by
  rw [hp] at course
  cases course with
  | @ask _ _ _ x _ rest _ hnext => exact ⟨x, rest, rfl, hnext⟩

theorem lasts_pause {d : Duration} {next : Wake → Procedure I α} {a : α}
    (course : Lasts c (.pause d next) log c' a) :
    Lasts (c.advance d) (next .elapsed) log c' a ∨
      c.cancelAt ≠ none ∧ ∃ middle, Lasts middle (next .cancelled) log c' a := by
  cases course with
  | pause hnext =>
      cases hwake : (c.pauseFor d).1 with
      | elapsed =>
          rw [hwake, Clock.pauseFor_of_elapsed hwake] at hnext
          exact Or.inl hnext
      | cancelled =>
          rw [hwake] at hnext
          exact Or.inr ⟨Clock.cancelAt_of_cancelled hwake, _, hnext⟩

/-- What shows its result ends with it. -/
theorem Lasts.of_shown {p : Procedure I (Option α)} {h : p.Shows} {a : α}
    (course : Lasts c (p.shown h) log c' a) : Lasts c p log c' (some a) := by
  induction p generalizing c log with
  | done result =>
      cases course
      cases result with
      | none => cases h
      | some a => exact Lasts.done _ (some a)
  | ask r next ih =>
      cases course with
      | ask hnext => exact Lasts.ask (ih _ hnext)
  | sleep d next ih =>
      cases course with
      | sleep hnext => exact Lasts.sleep (ih hnext)
  | pause d next ih =>
      cases course with
      | pause hnext => exact Lasts.pause (ih _ hnext)

theorem Lasts.leads {p : Procedure I α} {a : α} (course : Lasts c p log c' a) :
    Leads p (log.map Prod.snd) a := by
  induction course with
  | done c a => exact Leads.done a
  | ask _ ih => exact Leads.ask ih
  | sleep _ ih => exact Leads.sleep ih
  | pause _ ih => exact Leads.pause _ ih

theorem Lasts.cancelAt_eq {p : Procedure I α} {a : α} (course : Lasts c p log c' a) :
    c'.cancelAt = c.cancelAt := by
  induction course with
  | done c a => rfl
  | ask _ ih => exact ih
  | sleep _ ih => exact ih
  | @pause c _ d _ _ _ _ ih => rw [ih, Clock.cancelAt_pauseFor]

/-- What never waits takes no time. -/
theorem Lasts.of_prompt {p : Procedure I α} {a : α} (course : Lasts c p log c' a)
    (hp : Prompt p) : c' = c ∧ ∀ e ∈ log, e.1 = c.now := by
  induction course with
  | done c a => exact ⟨rfl, by simp⟩
  | ask _ ih =>
      rcases ih (hp _) with ⟨hclock, htimes⟩
      exact ⟨hclock, List.forall_mem_cons.mpr ⟨rfl, htimes⟩⟩
  | sleep _ _ => exact hp.elim
  | pause _ _ => exact hp.elim

/-!
## Runs
-/

/-- What is exchanged in a run, and when. -/
def chronicle (answer : (r : I.Request) → σ → I.Answer r × σ) :
    Procedure I α → Clock → σ → Chronicle I
  | .done _, _, _ => []
  | .ask r next, c, s =>
      (c.now, ⟨r, (answer r s).1⟩) :: chronicle answer (next (answer r s).1) c (answer r s).2
  | .sleep d next, c, s => chronicle answer next (c.advance d) s
  | .pause d next, c, s => chronicle answer (next (c.pauseFor d).1) (c.pauseFor d).2 s

theorem lasts_run (answer : (r : I.Request) → σ → I.Answer r × σ) (p : Procedure I α) (c : Clock)
    (s : σ) :
    Lasts c p (chronicle answer p c s) (run answer p c s).2.1 (run answer p c s).1 := by
  induction p generalizing c s with
  | done a => exact Lasts.done c a
  | ask r next ih => exact Lasts.ask (ih _ c _)
  | sleep d next ih => exact Lasts.sleep (ih (c.advance d) s)
  | pause d next ih => exact Lasts.pause (ih _ _ s)

theorem exists_answer_of_mem {answer : (r : I.Request) → σ → I.Answer r × σ} {p : Procedure I α}
    {s : σ} {e : Nat × Exchange I} (he : e ∈ chronicle answer p c s) :
    ∃ r s', e.2 = ⟨r, (answer r s').1⟩ := by
  induction p generalizing c s with
  | done a => cases he
  | ask r next ih =>
      rcases List.mem_cons.mp he with rfl | hlater
      · exact ⟨r, s, rfl⟩
      · exact ih _ hlater
  | sleep d next ih => exact ih he
  | pause d next ih => exact ih _ he

/-!
## Repetitions of one request
-/

section

variable {r : I.Request} {goesOn : I.Answer r → Prop} {t : Nat} {x : I.Answer r}

/-- One request was made again and again, each time for a reason, up to its last answer. -/
def Repeats (r : I.Request) (goesOn : I.Answer r → Prop) (log : Chronicle I) (t : Nat)
    (x : I.Answer r) : Prop :=
  ∃ earlier, log = earlier ++ [(t, ⟨r, x⟩)] ∧ ∀ e ∈ earlier, ∃ y, e.2 = ⟨r, y⟩ ∧ goesOn y

theorem repeats_once (t : Nat) (x : I.Answer r) : Repeats r goesOn [(t, ⟨r, x⟩)] t x :=
  ⟨[], rfl, by simp⟩

theorem Repeats.cons {y : I.Answer r} (h : Repeats r goesOn log t x) (hy : goesOn y) (s : Nat) :
    Repeats r goesOn ((s, ⟨r, y⟩) :: log) t x := by
  rcases h with ⟨earlier, hlog, hearlier⟩
  refine ⟨(s, ⟨r, y⟩) :: earlier, by rw [hlog]; rfl, ?_⟩
  exact List.forall_mem_cons.mpr ⟨⟨y, rfl, hy⟩, hearlier⟩

theorem Repeats.forall_eq (h : Repeats r goesOn log t x) : ∀ e ∈ log, ∃ y, e.2 = ⟨r, y⟩ := by
  rcases h with ⟨earlier, hlog, hearlier⟩
  intro e he
  rw [hlog] at he
  rcases List.mem_append.mp he with hbefore | hlast
  · rcases hearlier e hbefore with ⟨y, hy, _⟩
    exact ⟨y, hy⟩
  · exact ⟨x, congrArg Prod.snd (List.mem_singleton.mp hlast)⟩

theorem Repeats.mono {goesOn' : I.Answer r → Prop} (h : Repeats r goesOn log t x)
    (hgoes : ∀ y, goesOn y → goesOn' y) : Repeats r goesOn' log t x := by
  rcases h with ⟨earlier, hlog, hearlier⟩
  refine ⟨earlier, hlog, ?_⟩
  intro e he
  rcases hearlier e he with ⟨y, hy, hreason⟩
  exact ⟨y, hy, hgoes y hreason⟩

theorem times_cons_le {d : Duration} {left left' : Nat} {e : Exchange I}
    (h : ∀ e ∈ log, e.1 ≤ (c.advance d).now + left') (hd : d.millis + left' ≤ left) :
    ∀ e' ∈ (c.now, e) :: log, e'.1 ≤ c.now + left := by
  rw [List.forall_mem_cons]
  refine ⟨Nat.le_add_right _ _, ?_⟩
  intro e' he'
  have htime := h e' he'
  simp only [Clock.advance] at htime
  omega

/-- By induction on the time that is left: a look decides, or it is the last one, or a pause follows
it and the rest is the course of a shorter wait. -/
theorem lasts_followWithin {judge : τ → I.Answer r → β ⊕ τ} {look : τ → Procedure I (β ⊕ τ)}
    (hlook : ∀ seen, look seen = .ask r fun x => .done (judge seen x)) {interval : Duration}
    {seen : τ} {left : Nat} {ending : FollowEnd β τ}
    (course : Lasts c (followWithin interval look seen left) log c' ending) :
    ∃ t x last, Repeats r (fun y => ∃ before after, judge before y = .inr after) log t x ∧
      (∀ e ∈ log, e.1 ≤ c.now + left) ∧
      match judge last x with
      | .inl b => ending = .decided b ∧ c'.now = t
      | .inr after => ending = .expired after ∨ ending = .cancelled ∧ c.cancelAt ≠ none := by
  induction left using Nat.strongRecOn generalizing c log seen with
  | ind left ih =>
      rw [followWithin] at course
      rcases lasts_ask_bind (hlook seen) course with ⟨x, rest, rfl, hnext⟩
      cases hjudge : judge seen x with
      | inl b =>
          rw [hjudge] at hnext
          cases hnext
          refine ⟨_, x, seen, repeats_once _ x, by simp, ?_⟩
          rw [hjudge]
          exact ⟨rfl, rfl⟩
      | inr after =>
          by_cases hleft : left = 0
          · simp only [hjudge, hleft, dite_true] at hnext
            cases hnext
            refine ⟨_, x, seen, repeats_once _ x, by simp, ?_⟩
            rw [hjudge]
            exact Or.inl rfl
          · simp only [hjudge, hleft, dite_false] at hnext
            rcases lasts_pause hnext with helapsed | ⟨hcancel, middle, hcancelled⟩
            · rcases ih _ (by omega) helapsed with ⟨t, x', last, hrepeats, htimes, hend⟩
              refine ⟨t, x', last, hrepeats.cons ⟨seen, after, hjudge⟩ c.now, ?_, hend⟩
              apply times_cons_le htimes
              simp only
              omega
            · cases hcancelled
              refine ⟨_, x, seen, repeats_once _ x, by simp, ?_⟩
              rw [hjudge]
              exact Or.inr ⟨rfl, hcancel⟩

theorem lasts_pollWithin {met : I.Answer r → Bool} {check : Procedure I Bool}
    (hcheck : check = .ask r fun x => .done (met x)) {interval : Duration} {left : Nat}
    {ending : PollEnd} (course : Lasts c (pollWithin interval check left) log c' ending) :
    ∃ t x, Repeats r (fun y => met y = false) log t x ∧ (∀ e ∈ log, e.1 ≤ c.now + left) ∧
      (ending = .met ∧ met x = true ∨
        met x = false ∧ (ending = .expired ∨ ending = .cancelled ∧ c.cancelAt ≠ none)) := by
  induction left using Nat.strongRecOn generalizing c log with
  | ind left ih =>
      rw [pollWithin] at course
      rcases lasts_ask_bind hcheck course with ⟨x, rest, rfl, hnext⟩
      cases hmet : met x with
      | true =>
          rw [hmet, if_pos rfl] at hnext
          cases hnext
          exact ⟨_, x, repeats_once _ x, by simp, Or.inl ⟨rfl, hmet⟩⟩
      | false =>
          rw [hmet, if_neg (by simp)] at hnext
          by_cases hleft : left < max 1 interval.millis
          · rw [dif_pos hleft] at hnext
            cases hnext
            exact ⟨_, x, repeats_once _ x, by simp, Or.inr ⟨hmet, Or.inl rfl⟩⟩
          · rw [dif_neg hleft] at hnext
            rcases lasts_pause hnext with helapsed | ⟨hcancel, middle, hcancelled⟩
            · rcases ih _ (by omega) helapsed with ⟨t, x', hrepeats, htimes, hend⟩
              refine ⟨t, x', hrepeats.cons hmet c.now, ?_, hend⟩
              apply times_cons_le htimes
              omega
            · cases hcancelled
              exact ⟨_, x, repeats_once _ x, by simp, Or.inr ⟨hmet, Or.inr ⟨rfl, hcancel⟩⟩⟩

theorem lasts_retryFrom {read : I.Answer r → Except Error α}
    {attempt : Procedure I (Except Error α)} (hattempt : attempt = .ask r fun x => .done (read x))
    {policy : RetryPolicy} {fuel made : Nat} {delay : Duration} {outcome : Except Error α}
    (course : Lasts c (retryFrom policy attempt fuel made delay) log c' (some outcome)) :
    ∃ t x, Repeats r (fun y => ∃ e, read y = Except.error e) log t x ∧ read x = outcome := by
  induction fuel generalizing c log made delay with
  | zero => cases course
  | succ fuel ih =>
      rw [retryFrom] at course
      rcases lasts_ask_bind hattempt course with ⟨x, rest, rfl, hnext⟩
      cases hread : read x with
      | ok a =>
          rw [hread] at hnext
          cases hnext
          exact ⟨_, x, repeats_once _ x, hread⟩
      | error e =>
          rw [hread] at hnext
          by_cases hstops : (!e.isRetryable || policy.isExhausted (made + 1)) = true
          · simp only [hstops, if_true] at hnext
            cases hnext
            exact ⟨_, x, repeats_once _ x, hread⟩
          · simp only [hstops] at hnext
            cases hnext with
            | sleep hlater =>
                rcases ih hlater with ⟨t, x', hrepeats, houtcome⟩
                exact ⟨t, x', hrepeats.cons ⟨e, hread⟩ c.now, houtcome⟩

end

end Procedure
end PointInTime
