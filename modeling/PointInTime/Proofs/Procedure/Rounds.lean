import Mathlib.Algebra.Order.Floor.Div
import Mathlib.Logic.Function.Iterate
import PointInTime.Proofs.Procedure.Course

/-!
# Rounds of a loop

A loop does the same again and again, with waits in between.  If no round takes time, one round
after another leaves a state behind and gives a result, whenever the rounds take place.

Main statement: the results of its checks alone say how a poll ends, how often it checked until then
and at which times.  What is said of following serves the wait for a job.
-/

namespace PointInTime
namespace Procedure

variable {I : Interface} {σ τ α β γ : Type} {answer : (r : I.Request) → σ → I.Answer r × σ}

/-!
## One round after another
-/

section

variable (answer) (p : Procedure I α) (s : σ)

/-- The state that a number of rounds leave behind. -/
def stateAfter (n : Nat) : σ :=
  (fun s => (run answer p {} s).2.2)^[n] s

/-- The result of the round that comes after a number of others. -/
def resultAfter (n : Nat) : α :=
  (run answer p {} (stateAfter answer p s n)).1

/-- What is exchanged in a number of rounds, each of them at its time. -/
def rounds (time : Nat → Nat) (n : Nat) : Chronicle I :=
  (List.range n).flatMap fun j => chronicle answer p ⟨time j, none⟩ (stateAfter answer p s j)

end

theorem stateAfter_succ (answer : (r : I.Request) → σ → I.Answer r × σ) (p : Procedure I α) (s : σ)
    (n : Nat) :
    stateAfter answer p s (n + 1) = (run answer p {} (stateAfter answer p s n)).2.2 :=
  Function.iterate_succ_apply' _ n s

/-- A single request is answered at once. -/
theorem prompt_request (r : I.Request) : Prompt (request r) := fun _ => True.intro

theorem rounds_zero (answer : (r : I.Request) → σ → I.Answer r × σ) (p : Procedure I α) (s : σ)
    (time : Nat → Nat) : rounds answer p s time 0 = [] := rfl

theorem rounds_succ (answer : (r : I.Request) → σ → I.Answer r × σ) (p : Procedure I α) (s : σ)
    (time : Nat → Nat) (n : Nat) :
    rounds answer p s time (n + 1) =
      rounds answer p s time n ++
        chronicle answer p ⟨time n, none⟩ (stateAfter answer p s n) := by
  simp [rounds, List.range_succ]

/-- Where the state counts the rounds of one request, each of them is answered by its number. -/
theorem resultAfter_of_counted {answer : (r : I.Request) → Nat → I.Answer r × Nat} {r : I.Request}
    (hcount : ∀ n, (answer r n).2 = n + 1) (n : Nat) :
    resultAfter answer (request r) 0 n = (answer r n).1 := by
  have hstate : stateAfter answer (request r) 0 n = n := by
    induction n with
    | zero => rfl
    | succ n ih =>
        rw [stateAfter_succ, ih]
        exact hcount n
  rw [resultAfter, hstate]
  rfl

/-- In a round of one request, its answer is the result. -/
theorem rounds_request (answer : (r : I.Request) → σ → I.Answer r × σ) (r : I.Request) (s : σ)
    (time : Nat → Nat) (n : Nat) :
    rounds answer (request r) s time n =
      (List.range n).map fun j => (time j, ⟨r, resultAfter answer (request r) s j⟩) := by
  rw [List.map_eq_flatMap]
  rfl

/-- What never waits gives the same at any time. -/
theorem run_of_prompt {p : Procedure I α} (hp : Prompt p) (c c' : Clock) (s : σ) :
    run answer p c s = ((run answer p c' s).1, c, (run answer p c' s).2.2) := by
  induction p generalizing s with
  | done a => rfl
  | ask r next ih => exact ih _ (hp _) _
  | sleep d next ih => exact hp.elim
  | pause d next ih => exact hp.elim

theorem run_round (answer : (r : I.Request) → σ → I.Answer r × σ) {p : Procedure I α}
    (hp : Prompt p) (c : Clock) (s : σ) (n : Nat) :
    run answer p c (stateAfter answer p s n) =
      (resultAfter answer p s n, c, stateAfter answer p s (n + 1)) := by
  rw [run_of_prompt hp c {}, stateAfter_succ]
  rfl

theorem chronicle_bind (p : Procedure I α) (f : α → Procedure I β) (c : Clock) (s : σ) :
    chronicle answer (bind p f) c s =
      chronicle answer p c s ++
        chronicle answer (f (run answer p c s).1) (run answer p c s).2.1
          (run answer p c s).2.2 := by
  induction p generalizing c s with
  | done a => rfl
  | ask r next ih => simp [chronicle, run, ih]
  | sleep d next ih => simp [chronicle, run, ih]
  | pause d next ih => simp [chronicle, run, ih]

/-!
## Polling
-/

section

variable {check : Procedure I Bool} {interval : Duration} {left t : Nat} {s s' : σ}

/-- A round in which the condition does not hold, and that is followed by another one. -/
theorem pollWithin_step (hi : 0 < interval.millis) (hleft : interval.millis ≤ left)
    (hround : run answer check ⟨t, none⟩ s = (false, ⟨t, none⟩, s')) :
    run answer (pollWithin interval check left) ⟨t, none⟩ s =
        run answer (pollWithin interval check (left - interval.millis))
          ⟨t + interval.millis, none⟩ s' ∧
      chronicle answer (pollWithin interval check left) ⟨t, none⟩ s =
        chronicle answer check ⟨t, none⟩ s ++
          chronicle answer (pollWithin interval check (left - interval.millis))
            ⟨t + interval.millis, none⟩ s' := by
  have htick : max 1 interval.millis = interval.millis := Nat.max_eq_right hi
  have hfits : ¬ left < interval.millis := Nat.not_lt.mpr hleft
  rw [pollWithin, run_bind, chronicle_bind, hround]
  simp [htick, hfits, run, chronicle, Clock.pauseFor, Clock.advance]

/-- By induction on the number of rounds, each of which is followed by another one. -/
theorem pollWithin_after (hcheck : Prompt check) (hi : 0 < interval.millis) {k : Nat}
    (hleft : k * interval.millis ≤ left) (hround : ∀ j < k, resultAfter answer check s j = false) :
    run answer (pollWithin interval check left) ⟨t, none⟩ s =
        run answer (pollWithin interval check (left - k * interval.millis))
          ⟨t + k * interval.millis, none⟩ (stateAfter answer check s k) ∧
      chronicle answer (pollWithin interval check left) ⟨t, none⟩ s =
        rounds answer check s (fun j => t + j * interval.millis) k ++
          chronicle answer (pollWithin interval check (left - k * interval.millis))
            ⟨t + k * interval.millis, none⟩ (stateAfter answer check s k) := by
  induction k with
  | zero => simp [rounds_zero, stateAfter]
  | succ k ih =>
      have hmul : (k + 1) * interval.millis = k * interval.millis + interval.millis :=
        Nat.succ_mul k _
      rcases ih (by omega) (fun j hj => hround j (Nat.lt_succ_of_lt hj)) with ⟨hrun, hlog⟩
      have hfalse := run_round answer hcheck ⟨t + k * interval.millis, none⟩ s k
      rw [hround k (Nat.lt_succ_self k)] at hfalse
      have hfits : interval.millis ≤ left - k * interval.millis := by omega
      rcases pollWithin_step hi hfits hfalse with ⟨hstep, hexchanged⟩
      rw [hrun, hlog, hstep, hexchanged, rounds_succ, hmul, Nat.sub_sub, Nat.add_assoc,
        List.append_assoc]
      exact ⟨rfl, rfl⟩

theorem pollWithin_of_met (hcheck : Prompt check) (hi : 0 < interval.millis) {k : Nat}
    (hleft : k * interval.millis ≤ left) (hround : ∀ j < k, resultAfter answer check s j = false)
    (hmet : resultAfter answer check s k = true) :
    run answer (pollWithin interval check left) ⟨t, none⟩ s =
        (.met, ⟨t + k * interval.millis, none⟩, stateAfter answer check s (k + 1)) ∧
      chronicle answer (pollWithin interval check left) ⟨t, none⟩ s =
        rounds answer check s (fun j => t + j * interval.millis) (k + 1) := by
  rcases pollWithin_after (t := t) hcheck hi hleft hround with ⟨hrun, hlog⟩
  have hlast := run_round answer hcheck ⟨t + k * interval.millis, none⟩ s k
  rw [hmet] at hlast
  rw [hrun, hlog, rounds_succ, pollWithin, run_bind, chronicle_bind, hlast]
  simp [run, chronicle]

theorem pollWithin_of_expired (hcheck : Prompt check) (hi : 0 < interval.millis)
    (hround : ∀ j ≤ left / interval.millis, resultAfter answer check s j = false) :
    run answer (pollWithin interval check left) ⟨t, none⟩ s =
        (.expired, ⟨t + left / interval.millis * interval.millis, none⟩,
          stateAfter answer check s (left / interval.millis + 1)) ∧
      chronicle answer (pollWithin interval check left) ⟨t, none⟩ s =
        rounds answer check s (fun j => t + j * interval.millis)
          (left / interval.millis + 1) := by
  rcases pollWithin_after (t := t) hcheck hi (Nat.div_mul_le_self left interval.millis)
    (fun j hj => hround j (Nat.le_of_lt hj)) with ⟨hrun, hlog⟩
  have hlast := run_round answer hcheck
    ⟨t + left / interval.millis * interval.millis, none⟩ s (left / interval.millis)
  rw [hround _ (Nat.le_refl _)] at hlast
  -- What is left after the last interval that fits is shorter than another one.
  have hshort : left - left / interval.millis * interval.millis < max 1 interval.millis := by
    have hmod := Nat.mod_lt left hi
    have hdiv := Nat.div_add_mod' left interval.millis
    omega
  rw [hrun, hlog, rounds_succ, pollWithin, run_bind, chronicle_bind, hlast]
  simp [run, chronicle, hshort]

end

/-!
## The end of a poll
-/

section

variable {ε : Type} (check : Procedure I (Except ε Bool)) (c : Clock) (s : σ)

/-- A condition is met where its check says so, and not where the check fails. -/
theorem run_holds :
    ((run answer (holds check) c s).1 = true ↔ (run answer check c s).1 = .ok true) ∧
      (run answer (holds check) c s).2 = (run answer check c s).2 := by
  rw [holds, run_bind]
  cases hresult : (run answer check c s).1 with
  | ok b => simp [run]
  | error e => simp [run]

theorem chronicle_holds : chronicle answer (holds check) c s = chronicle answer check c s := by
  rw [holds, chronicle_bind]
  cases (run answer check c s).1 with
  | ok b => simp [chronicle]
  | error e => simp [chronicle]

theorem stateAfter_holds (n : Nat) :
    stateAfter answer (holds check) s n = stateAfter answer check s n := by
  induction n with
  | zero => rfl
  | succ n ih => rw [stateAfter_succ, stateAfter_succ, ih, (run_holds check _ _).2]

theorem rounds_holds (time : Nat → Nat) (n : Nat) :
    rounds answer (holds check) s time n = rounds answer check s time n := by
  simp only [rounds, chronicle_holds, stateAfter_holds]

theorem resultAfter_holds (n : Nat) :
    resultAfter answer (holds check) s n = true ↔ resultAfter answer check s n = .ok true := by
  rw [resultAfter, stateAfter_holds]
  exact (run_holds check _ _).1

end

theorem prompt_holds {ε : Type} {check : Procedure I (Except ε Bool)} (hcheck : Prompt check) :
    Prompt (holds check) := by
  apply prompt_bind hcheck
  intro result
  cases result with
  | ok b => exact True.intro
  | error e => exact True.intro

/-- A poll that makes one check more than it waits for intervals, and then ends. -/
structure PollsFor (answer : (r : I.Request) → σ → I.Answer r × σ)
    (check : Procedure I (Except Error Bool)) (interval limit : Duration) (message : String)
    (cancellation : Error) (t : Nat) (s : σ) (intervals : Nat) (outcome : Except Error Unit) :
    Prop where
  outcome_eq :
    (run answer (pollUntil limit interval message cancellation check) ⟨t, none⟩ s).1 = outcome
  clock_eq :
    (run answer (pollUntil limit interval message cancellation check) ⟨t, none⟩ s).2.1 =
      ⟨t + intervals * interval.millis, none⟩
  state_eq :
    (run answer (pollUntil limit interval message cancellation check) ⟨t, none⟩ s).2.2 =
      stateAfter answer check s (intervals + 1)
  checks_eq :
    chronicle answer (pollUntil limit interval message cancellation check) ⟨t, none⟩ s =
      rounds answer check s (fun j => t + j * interval.millis) (intervals + 1)
  in_time : intervals * interval.millis ≤ limit.millis

section

variable {check : Procedure I (Except Error Bool)} {interval limit : Duration}

theorem poll_eq_pollWithin (hi : 0 < interval.millis) (check : Procedure I Bool) :
    poll interval check limit = pollWithin interval check limit.millis := by
  rw [poll, if_neg (Nat.ne_of_gt hi)]

/-- A poll ends as its loop does. -/
theorem pollsFor_of_polled (hi : 0 < interval.millis) {message : String} {cancellation : Error}
    {t : Nat} {s : σ} {k : Nat} {ended : PollEnd}
    (hpolled :
      run answer (pollWithin interval (holds check) limit.millis) ⟨t, none⟩ s =
          (ended, ⟨t + k * interval.millis, none⟩, stateAfter answer (holds check) s (k + 1)) ∧
        chronicle answer (pollWithin interval (holds check) limit.millis) ⟨t, none⟩ s =
          rounds answer (holds check) s (fun j => t + j * interval.millis) (k + 1))
    (hfits : k * interval.millis ≤ limit.millis) :
    PollsFor answer check interval limit message cancellation t s k
      (ended.result (.timeout message) cancellation) := by
  rcases hpolled with ⟨hrun, hlog⟩
  rw [← poll_eq_pollWithin hi] at hrun hlog
  rw [stateAfter_holds] at hrun
  rw [rounds_holds] at hlog
  have hends : run answer (pollUntil limit interval message cancellation check) ⟨t, none⟩ s =
      (ended.result (.timeout message) cancellation, ⟨t + k * interval.millis, none⟩,
        stateAfter answer check s (k + 1)) := by
    rw [pollUntil, run_bind, hrun]
    rfl
  constructor
  · rw [hends]
  · rw [hends]
  · rw [hends]
  · rw [pollUntil, chronicle_bind, hlog]
    exact List.append_nil _
  · exact hfits

theorem holds_eq_false_of_ne {s : σ} {j : Nat} (h : resultAfter answer check s j ≠ .ok true) :
    resultAfter answer (holds check) s j = false :=
  Bool.eq_false_iff.mpr (mt (resultAfter_holds check s j).mp h)

theorem pollsFor_of_met (hcheck : Prompt check) (hi : 0 < interval.millis) (message : String)
    (cancellation : Error) (t : Nat) (s : σ) {k : Nat} (hk : k ≤ limit.millis / interval.millis)
    (hbefore : ∀ j < k, resultAfter answer check s j ≠ .ok true)
    (hmet : resultAfter answer check s k = .ok true) :
    PollsFor answer check interval limit message cancellation t s k (.ok ()) := by
  have hfits : k * interval.millis ≤ limit.millis := (Nat.le_div_iff_mul_le hi).mp hk
  have hpolled := pollWithin_of_met (t := t) (prompt_holds hcheck) hi hfits
    (fun j hj => holds_eq_false_of_ne (hbefore j hj)) ((resultAfter_holds check s k).mpr hmet)
  exact pollsFor_of_polled hi hpolled hfits

theorem pollsFor_of_expired (hcheck : Prompt check) (hi : 0 < interval.millis) (message : String)
    (cancellation : Error) (t : Nat) (s : σ)
    (hnever : ∀ j ≤ limit.millis / interval.millis, resultAfter answer check s j ≠ .ok true) :
    PollsFor answer check interval limit message cancellation t s
      (limit.millis / interval.millis) (.error (.timeout message)) := by
  have hpolled := pollWithin_of_expired (t := t) (prompt_holds hcheck) hi
    (fun j hj => holds_eq_false_of_ne (hnever j hj))
  exact pollsFor_of_polled hi hpolled (Nat.div_mul_le_self _ _)

/-- The first check that says yes ends a poll, whatever the checks before it failed with; if none
says yes, the last one that fits into the limit does. -/
theorem poll_ends_by_its_checks (answer : (r : I.Request) → σ → I.Answer r × σ)
    (hcheck : Prompt check) (hi : 0 < interval.millis) (limit : Duration) (message : String)
    (cancellation : Error) (t : Nat) (s : σ) :
    (∀ k ≤ limit.millis / interval.millis,
      (∀ j < k, resultAfter answer check s j ≠ .ok true) →
      resultAfter answer check s k = .ok true →
        PollsFor answer check interval limit message cancellation t s k (.ok ())) ∧
    ((∀ j ≤ limit.millis / interval.millis, resultAfter answer check s j ≠ .ok true) →
      PollsFor answer check interval limit message cancellation t s
        (limit.millis / interval.millis) (.error (.timeout message))) := by
  constructor
  · intro k hk hbefore hmet
    exact pollsFor_of_met hcheck hi message cancellation t s hk hbefore hmet
  · intro hnever
    exact pollsFor_of_expired hcheck hi message cancellation t s hnever

end

/-!
### Checks that follow a script
-/

/-- One kind of request, whose answers are checks. -/
abbrev checking : Interface :=
  ⟨Unit, fun _ => Except Error Bool⟩

/-- A script gives every check its result by the number of the checks before it. -/
def scripted (script : Nat → Except Error Bool) (_ : Unit) (n : Nat) : Except Error Bool × Nat :=
  (script n, n + 1)

theorem resultAfter_scripted (script : Nat → Except Error Bool) (n : Nat) :
    resultAfter (I := checking) (scripted script) (request ()) 0 n = script n :=
  resultAfter_of_counted (fun _ => rfl) n

/-- A check that fails, then one that says no, and from then on yes. -/
def thirdTime : Nat → Except Error Bool
  | 0 => .error (.timeout "no answer")
  | 1 => .ok false
  | _ + 2 => .ok true

/-- A limit of two intervals and a half admits the third check, one of an interval and a half does
not. -/
theorem poll_ends_by_third_check :
    PollsFor (I := checking) (scripted thirdTime) (request ()) ⟨10⟩ ⟨25⟩ "not met"
        (.internal "poll" "cancelled") 0 0 2 (.ok ()) ∧
      PollsFor (I := checking) (scripted thirdTime) (request ()) ⟨10⟩ ⟨15⟩ "not met"
        (.internal "poll" "cancelled") 0 0 1 (.error (.timeout "not met")) := by
  have hbefore : ∀ j < 2,
      resultAfter (I := checking) (scripted thirdTime) (request ()) 0 j ≠ .ok true := by
    intro j hj
    rw [resultAfter_scripted]
    match j, hj with
    | 0, _ => simp [thirdTime]
    | 1, _ => simp [thirdTime]
  constructor
  · exact (poll_ends_by_its_checks _ (prompt_request _) (by decide) ⟨25⟩ "not met"
      (.internal "poll" "cancelled") 0 0).1 2 (by decide) hbefore (resultAfter_scripted _ 2)
  · exact (poll_ends_by_its_checks _ (prompt_request _) (by decide) ⟨15⟩ "not met"
      (.internal "poll" "cancelled") 0 0).2 fun j hj => hbefore j (Nat.lt_succ_of_le hj)

/-!
## Following

What is looked at is the same in every round; what is made of it depends on the rounds before.
-/

section

variable {view : Procedure I γ} {judge : τ → γ → β ⊕ τ} {look : τ → Procedure I (β ⊕ τ)}
variable {interval : Duration} {left t : Nat} {s s' : σ} {seen seen' : τ} {x : γ}

/-- A round that decides nothing, and that is followed by another one. -/
theorem followWithin_step (hlook : ∀ seen, look seen = bind view fun x => done (judge seen x))
    (hi : 0 < interval.millis) (hleft : 0 < left)
    (hround : run answer view ⟨t, none⟩ s = (x, ⟨t, none⟩, s'))
    (hjudge : judge seen x = .inr seen') :
    run answer (followWithin interval look seen left) ⟨t, none⟩ s =
        run answer (followWithin interval look seen' (left - min interval.millis left))
          ⟨t + min interval.millis left, none⟩ s' ∧
      chronicle answer (followWithin interval look seen left) ⟨t, none⟩ s =
        chronicle answer view ⟨t, none⟩ s ++
          chronicle answer (followWithin interval look seen' (left - min interval.millis left))
            ⟨t + min interval.millis left, none⟩ s' := by
  have htick : max 1 (min interval.millis left) = min interval.millis left := by omega
  have hmore : left ≠ 0 := Nat.ne_of_gt hleft
  rw [followWithin, hlook, bind_assoc, run_bind, chronicle_bind, hround]
  simp [hjudge, htick, hmore, run, chronicle, Clock.pauseFor, Clock.advance]

/-- By induction on the number of rounds, of which only the last one may be followed by a shorter
wait. -/
theorem followWithin_after {seenAt : Nat → τ}
    (hlook : ∀ seen, look seen = bind view fun x => done (judge seen x)) (hview : Prompt view)
    (hi : 0 < interval.millis) {k : Nat} (hleft : k ≤ left ⌈/⌉ interval.millis)
    (hround : ∀ j < k, judge (seenAt j) (resultAfter answer view s j) = .inr (seenAt (j + 1))) :
    run answer (followWithin interval look (seenAt 0) left) ⟨t, none⟩ s =
        run answer (followWithin interval look (seenAt k) (left - k * interval.millis))
          ⟨t + min (k * interval.millis) left, none⟩ (stateAfter answer view s k) ∧
      chronicle answer (followWithin interval look (seenAt 0) left) ⟨t, none⟩ s =
        rounds answer view s (fun j => t + min (j * interval.millis) left) k ++
          chronicle answer (followWithin interval look (seenAt k) (left - k * interval.millis))
            ⟨t + min (k * interval.millis) left, none⟩ (stateAfter answer view s k) := by
  induction k with
  | zero => simp [rounds_zero, stateAfter]
  | succ k ih =>
      have hmul : (k + 1) * interval.millis = k * interval.millis + interval.millis :=
        Nat.succ_mul k _
      have hbefore : k * interval.millis < left := by
        rw [Nat.mul_comm]
        exact Nat.lt_of_not_le (mt (ceilDiv_le_iff_le_mul hi).mpr (Nat.not_le.mpr hleft))
      rcases ih (Nat.le_of_succ_le hleft) (fun j hj => hround j (Nat.lt_succ_of_lt hj)) with
        ⟨hrun, hlog⟩
      have hview := run_round answer hview
        ⟨t + min (k * interval.millis) left, none⟩ s k
      rcases followWithin_step hlook hi (Nat.sub_pos_of_lt hbefore) hview
        (hround k (Nat.lt_succ_self k)) with ⟨hstep, hexchanged⟩
      have htime : t + min (k * interval.millis) left +
          min interval.millis (left - k * interval.millis) =
            t + min ((k + 1) * interval.millis) left := by
        omega
      have hrest : left - k * interval.millis -
          min interval.millis (left - k * interval.millis) =
            left - (k + 1) * interval.millis := by
        omega
      rw [hrun, hlog, hstep, hexchanged, rounds_succ, htime, hrest, List.append_assoc]
      exact ⟨rfl, rfl⟩

theorem followWithin_of_decided {seenAt : Nat → τ} {b : β}
    (hlook : ∀ seen, look seen = bind view fun x => done (judge seen x)) (hview : Prompt view)
    (hi : 0 < interval.millis) {k : Nat} (hleft : k ≤ left ⌈/⌉ interval.millis)
    (hround : ∀ j < k, judge (seenAt j) (resultAfter answer view s j) = .inr (seenAt (j + 1)))
    (hdecided : judge (seenAt k) (resultAfter answer view s k) = .inl b) :
    run answer (followWithin interval look (seenAt 0) left) ⟨t, none⟩ s =
        (.decided b, ⟨t + min (k * interval.millis) left, none⟩,
          stateAfter answer view s (k + 1)) ∧
      chronicle answer (followWithin interval look (seenAt 0) left) ⟨t, none⟩ s =
        rounds answer view s (fun j => t + min (j * interval.millis) left) (k + 1) := by
  rcases followWithin_after (t := t) hlook hview hi hleft hround with ⟨hrun, hlog⟩
  have hlast := run_round answer hview
    ⟨t + min (k * interval.millis) left, none⟩ s k
  rw [hrun, hlog, rounds_succ, followWithin, hlook, bind_assoc, run_bind, chronicle_bind, hlast]
  simp [hdecided, run, chronicle]

theorem followWithin_of_expired {seenAt : Nat → τ}
    (hlook : ∀ seen, look seen = bind view fun x => done (judge seen x)) (hview : Prompt view)
    (hi : 0 < interval.millis)
    (hround : ∀ j ≤ left ⌈/⌉ interval.millis,
      judge (seenAt j) (resultAfter answer view s j) = .inr (seenAt (j + 1))) :
    run answer (followWithin interval look (seenAt 0) left) ⟨t, none⟩ s =
        (.expired (seenAt (left ⌈/⌉ interval.millis + 1)), ⟨t + left, none⟩,
          stateAfter answer view s (left ⌈/⌉ interval.millis + 1)) ∧
      chronicle answer (followWithin interval look (seenAt 0) left) ⟨t, none⟩ s =
        rounds answer view s (fun j => t + min (j * interval.millis) left)
          (left ⌈/⌉ interval.millis + 1) := by
  have hover : left ≤ left ⌈/⌉ interval.millis * interval.millis := by
    rw [Nat.mul_comm]
    exact (ceilDiv_le_iff_le_mul hi).mp (Nat.le_refl _)
  rcases followWithin_after (t := t) hlook hview hi (Nat.le_refl _)
    (fun j hj => hround j (Nat.le_of_lt hj)) with ⟨hrun, hlog⟩
  have hlast := run_round answer hview ⟨t + left, none⟩ s (left ⌈/⌉ interval.millis)
  have hundecided := hround _ (Nat.le_refl _)
  rw [Nat.min_eq_right hover, Nat.sub_eq_zero_of_le hover] at hrun hlog
  rw [hrun, hlog, rounds_succ, followWithin, hlook, bind_assoc, run_bind, chronicle_bind,
    Nat.min_eq_right hover, hlast]
  simp [hundecided, run, chronicle]

end

end Procedure
end PointInTime
