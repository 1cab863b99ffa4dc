import Mathlib.Logic.Function.Iterate
import PointInTime.Procedure.Retry
import PointInTime.Proofs.Procedure.EnsuresIn

/-!
# Attempts and their results

Attempts are made one after another, with a delay after each one that is to be repeated.  Where an
attempt begins, and so its result, depends on the attempts before it alone, and not on whether a
limit lets it be made.

Main statement: the results decide which attempts are made.  The first one that is final is the last
one made, unless the limit comes before it; what the last one gave is the outcome.  A limit of 0 is
none.
-/

namespace PointInTime

/-- The delay after an attempt that comes after a number of others. -/
def RetryPolicy.delayAfter (policy : RetryPolicy) (n : Nat) : Duration :=
  policy.nextDelay^[n] policy.initialDelay

theorem RetryPolicy.delayAfter_succ (policy : RetryPolicy) (n : Nat) :
    policy.delayAfter (n + 1) = policy.nextDelay (policy.delayAfter n) :=
  Function.iterate_succ_apply' _ n _

namespace Procedure

variable {I : Interface} {σ α β : Type} {answer : (r : I.Request) → σ → I.Answer r × σ}

/-!
## One attempt after another
-/

/-- No repetition follows a success, nor an error that a repetition does not help. -/
def IsFinal (result : Except Error α) : Prop :=
  ∀ e, result = .error e → e.isRetryable = false

theorem isFinal_ok (a : α) : IsFinal (.ok a : Except Error α) :=
  fun _ he => nomatch he

theorem isFinal_error_iff (e : Error) :
    IsFinal (.error e : Except Error α) ↔ e.isRetryable = false := by
  constructor
  · intro hfinal
    exact hfinal e rfl
  · rintro he _ ⟨⟩
    exact he

section

variable (answer) (policy : RetryPolicy) (attempt : Procedure I (Except Error α)) (c : Clock)
variable (s : σ)

/-- The clock and the state at which an attempt begins that comes after a number of others. -/
def beginning : Nat → Clock × σ
  | 0 => (c, s)
  | n + 1 =>
      let ended := run answer attempt (beginning n).1 (beginning n).2
      (ended.2.1.advance (policy.jitter (n + 1) (policy.delayAfter n)), ended.2.2)

/-- The result of the attempt that comes after a number of others. -/
def attemptResult (n : Nat) : Except Error α :=
  (run answer attempt (beginning answer policy attempt c s n).1
    (beginning answer policy attempt c s n).2).1

/-- What is exchanged in the first attempts of a number. -/
def attempts (n : Nat) : History I :=
  (List.range n).flatMap fun j =>
    exchanges answer attempt (beginning answer policy attempt c s j).1
      (beginning answer policy attempt c s j).2

/-- A procedure makes so many attempts, each of them once and in order, asks for nothing else, and
ends with this outcome. -/
structure MakesAttempts (n : Nat) (p : Procedure I β) (outcome : β) : Prop where
  outcome_eq : (run answer p c s).1 = outcome
  state_eq : (run answer p c s).2.2 = (beginning answer policy attempt c s n).2
  exchanges_eq : exchanges answer p c s = attempts answer policy attempt c s n

/-- The attempt that comes after a number of others is followed by another one: its result calls for
a repetition, and the limit leaves room for it. -/
structure IsRepeated (n : Nat) : Prop where
  again : ¬ IsFinal (attemptResult answer policy attempt c s n)
  admitted : policy.maxAttempts = 0 ∨ n + 1 < policy.maxAttempts

end

/-!
## The loop

What is left of the loop after a number of attempts depends on the result of the next one.
-/

section

variable {policy : RetryPolicy} {attempt : Procedure I (Except Error α)} {c : Clock} {s : σ}
variable {k n fuel : Nat}

theorem attempts_succ (n : Nat) :
    attempts answer policy attempt c s (n + 1) =
      attempts answer policy attempt c s n ++
        exchanges answer attempt (beginning answer policy attempt c s n).1
          (beginning answer policy attempt c s n).2 := by
  simp [attempts, List.range_succ]

/-- What the loop makes of a result. -/
def afterResult (policy : RetryPolicy) (attempt : Procedure I (Except Error α)) (fuel made : Nat)
    (delay : Duration) : Except Error α → Procedure I (Option (Except Error α))
  | .ok a => done (some (.ok a))
  | .error e =>
      if !e.isRetryable || policy.isExhausted (made + 1) then done (some (.error e))
      else
        sleep (policy.jitter (made + 1) delay)
          (retryFrom policy attempt fuel (made + 1) (policy.nextDelay delay))

theorem retryFrom_succ (policy : RetryPolicy) (attempt : Procedure I (Except Error α))
    (fuel made : Nat) (delay : Duration) :
    retryFrom policy attempt (fuel + 1) made delay =
      bind attempt (afterResult policy attempt fuel made delay) := rfl

theorem afterResult_of_repeated (fuel : Nat) (delay : Duration)
    (h : IsRepeated answer policy attempt c s n) :
    afterResult policy attempt fuel n delay (attemptResult answer policy attempt c s n) =
      sleep (policy.jitter (n + 1) delay)
        (retryFrom policy attempt fuel (n + 1) (policy.nextDelay delay)) := by
  have hagain := h.again
  cases hresult : attemptResult answer policy attempt c s n with
  | ok a =>
      rw [hresult] at hagain
      exact absurd (isFinal_ok a) hagain
  | error e =>
      rw [hresult, isFinal_error_iff, Bool.not_eq_false] at hagain
      simp [afterResult, hagain, RetryPolicy.isExhausted_eq_false.mpr h.admitted]

theorem afterResult_of_last (fuel : Nat) (delay : Duration)
    (h : ¬ IsRepeated answer policy attempt c s n) :
    afterResult policy attempt fuel n delay (attemptResult answer policy attempt c s n) =
      done (some (attemptResult answer policy attempt c s n)) := by
  cases hresult : attemptResult answer policy attempt c s n with
  | ok a => rfl
  | error e =>
      apply if_pos
      by_contra hgoesOn
      rw [Bool.or_eq_true, not_or, Bool.not_eq_true, Bool.not_eq_true, Bool.not_eq_false',
        RetryPolicy.isExhausted_eq_false] at hgoesOn
      apply h
      constructor
      · rw [hresult, isFinal_error_iff, hgoesOn.1]
        exact Bool.noConfusion
      · exact hgoesOn.2

/-- An attempt that is repeated leads to the next one. -/
theorem retryFrom_step (fuel : Nat) (h : IsRepeated answer policy attempt c s n) :
    let here := beginning answer policy attempt c s n
    let next := beginning answer policy attempt c s (n + 1)
    run answer (retryFrom policy attempt (fuel + 1) n (policy.delayAfter n)) here.1 here.2 =
        run answer (retryFrom policy attempt fuel (n + 1) (policy.delayAfter (n + 1)))
          next.1 next.2 ∧
      exchanges answer (retryFrom policy attempt (fuel + 1) n (policy.delayAfter n))
          here.1 here.2 =
        exchanges answer attempt here.1 here.2 ++
          exchanges answer (retryFrom policy attempt fuel (n + 1) (policy.delayAfter (n + 1)))
            next.1 next.2 := by
  intro here next
  have hresult : (run answer attempt here.1 here.2).1 =
      attemptResult answer policy attempt c s n := rfl
  rw [retryFrom_succ, run_bind, exchanges_bind, hresult, policy.delayAfter_succ,
    afterResult_of_repeated fuel _ h]
  exact ⟨rfl, rfl⟩

/-- By induction on the number of attempts, each of which is repeated. -/
theorem retry_after (hk : k ≤ fuel) (hbefore : ∀ j < k, IsRepeated answer policy attempt c s j) :
    let there := beginning answer policy attempt c s k
    run answer (retry policy attempt fuel) c s =
        run answer (retryFrom policy attempt (fuel - k) k (policy.delayAfter k))
          there.1 there.2 ∧
      exchanges answer (retry policy attempt fuel) c s =
        attempts answer policy attempt c s k ++
          exchanges answer (retryFrom policy attempt (fuel - k) k (policy.delayAfter k))
            there.1 there.2 := by
  induction k with
  | zero => exact ⟨rfl, rfl⟩
  | succ k ih =>
      rcases ih (Nat.le_of_succ_le hk) (fun j hj => hbefore j (Nat.lt_succ_of_lt hj)) with
        ⟨hrun, hlog⟩
      have hfuel : fuel - k = fuel - (k + 1) + 1 := by omega
      rcases retryFrom_step (fuel - (k + 1)) (hbefore k (Nat.lt_succ_self k)) with
        ⟨hstep, hexchanged⟩
      intro there
      rw [hrun, hlog, hfuel, hstep, hexchanged, attempts_succ, List.append_assoc]
      exact ⟨rfl, rfl⟩

/-!
## How the attempts end
-/

/-- The first attempt that is not repeated is the last one. -/
theorem makes_of_last (hk : k < fuel)
    (hbefore : ∀ j < k, IsRepeated answer policy attempt c s j)
    (hlast : ¬ IsRepeated answer policy attempt c s k) :
    MakesAttempts answer policy attempt c s (k + 1) (retry policy attempt fuel)
      (some (attemptResult answer policy attempt c s k)) := by
  rcases retry_after (Nat.le_of_lt hk) hbefore with ⟨hrun, hlog⟩
  have hfuel : fuel - k = fuel - (k + 1) + 1 := by omega
  have hresult : (run answer attempt (beginning answer policy attempt c s k).1
      (beginning answer policy attempt c s k).2).1 =
        attemptResult answer policy attempt c s k := rfl
  rw [hfuel, retryFrom_succ, run_bind, hresult, afterResult_of_last _ _ hlast] at hrun
  rw [hfuel, retryFrom_succ, exchanges_bind, hresult, afterResult_of_last _ _ hlast] at hlog
  constructor
  · rw [hrun]
    rfl
  · rw [hrun]
    rfl
  · rw [hlog, attempts_succ]
    exact congrArg _ (List.append_nil _)

/-- Attempts that are all repeated show no result. -/
theorem makes_of_repeated (hbefore : ∀ j < fuel, IsRepeated answer policy attempt c s j) :
    MakesAttempts answer policy attempt c s fuel (retry policy attempt fuel) none := by
  rcases retry_after (Nat.le_refl fuel) hbefore with ⟨hrun, hlog⟩
  rw [Nat.sub_self] at hrun hlog
  constructor
  · rw [hrun]
    rfl
  · rw [hrun]
    rfl
  · rw [hlog]
    exact List.append_nil _

/-- Attempts under a limit are those that show their result. -/
theorem MakesAttempts.limited {hlimit : 0 < policy.maxAttempts} {outcome : Except Error α}
    (h : MakesAttempts answer policy attempt c s n (retry policy attempt policy.maxAttempts)
      (some outcome)) :
    MakesAttempts answer policy attempt c s n (retryLimited policy hlimit attempt) outcome := by
  have hshown : bind (retryLimited policy hlimit attempt) (fun result => done (some result)) =
      retry policy attempt policy.maxAttempts := bind_shown _ _
  rw [← hshown] at h
  constructor
  · have houtcome := h.outcome_eq
    rw [run_bind] at houtcome
    exact Option.some.inj houtcome
  · rw [← h.state_eq, run_bind]
    rfl
  · rw [← h.exchanges_eq, exchanges_bind]
    exact (List.append_nil _).symm

/-- Under a limit the last attempt is the one at the limit or an earlier one that is final. -/
theorem makes_under_limit (hn : 0 < n) (hwithin : n ≤ policy.maxAttempts)
    (hagain : ∀ j < n - 1, ¬ IsFinal (attemptResult answer policy attempt c s j))
    (hlast : n = policy.maxAttempts ∨ IsFinal (attemptResult answer policy attempt c s (n - 1)))
    (hfuel : n ≤ fuel) :
    MakesAttempts answer policy attempt c s n (retry policy attempt fuel)
      (some (attemptResult answer policy attempt c s (n - 1))) := by
  have hcount : n = n - 1 + 1 := by omega
  rw [hcount, Nat.add_sub_cancel]
  apply makes_of_last
  · omega
  · intro j hj
    exact ⟨hagain j hj, Or.inr (by omega)⟩
  · intro hrepeated
    rcases hlast with hmax | hfinal
    · have hadmitted := hrepeated.admitted
      omega
    · exact hrepeated.again hfinal

end

/-- Under a limit so many attempts are made, and the last one gives the outcome: whatever fuel there
is beyond them, and for callers who have the limit. -/
structure EndsUnderLimit (answer : (r : I.Request) → σ → I.Answer r × σ) (policy : RetryPolicy)
    (attempt : Procedure I (Except Error α)) (c : Clock) (s : σ) (n : Nat) : Prop where
  shows : ∀ fuel, n ≤ fuel →
    MakesAttempts answer policy attempt c s n (retry policy attempt fuel)
      (some (attemptResult answer policy attempt c s (n - 1)))
  limited : ∀ hlimit : 0 < policy.maxAttempts,
    MakesAttempts answer policy attempt c s n (retryLimited policy hlimit attempt)
      (attemptResult answer policy attempt c s (n - 1))

theorem endsUnderLimit {policy : RetryPolicy} {attempt : Procedure I (Except Error α)} {c : Clock}
    {s : σ} {n : Nat} (hn : 0 < n) (hwithin : n ≤ policy.maxAttempts)
    (hagain : ∀ j < n - 1, ¬ IsFinal (attemptResult answer policy attempt c s j))
    (hlast : n = policy.maxAttempts ∨ IsFinal (attemptResult answer policy attempt c s (n - 1))) :
    EndsUnderLimit answer policy attempt c s n where
  shows := by
    intro fuel hfuel
    exact makes_under_limit hn hwithin hagain hlast hfuel
  limited := by
    intro hlimit
    exact (makes_under_limit hn hwithin hagain hlast hwithin).limited

/-- Without a limit an outcome shows with fuel enough, if an attempt is ever final. -/
theorem retry_ends_by_its_attempts (answer : (r : I.Request) → σ → I.Answer r × σ)
    (policy : RetryPolicy) (attempt : Procedure I (Except Error α)) (c : Clock) (s : σ) :
    (∀ k, (∀ j < k, ¬ IsFinal (attemptResult answer policy attempt c s j)) →
      IsFinal (attemptResult answer policy attempt c s k) →
        (0 < policy.maxAttempts →
          EndsUnderLimit answer policy attempt c s (min (k + 1) policy.maxAttempts)) ∧
        (policy.maxAttempts = 0 → ∀ fuel,
          MakesAttempts answer policy attempt c s (min (k + 1) fuel) (retry policy attempt fuel)
            (if k < fuel then some (attemptResult answer policy attempt c s k) else none))) ∧
    ((∀ j, ¬ IsFinal (attemptResult answer policy attempt c s j)) →
        (0 < policy.maxAttempts →
          EndsUnderLimit answer policy attempt c s policy.maxAttempts) ∧
        (policy.maxAttempts = 0 → ∀ fuel,
          MakesAttempts answer policy attempt c s fuel (retry policy attempt fuel) none)) := by
  constructor
  · intro k hagain hfinal
    constructor
    · intro hlimit
      apply endsUnderLimit
      · omega
      · exact Nat.min_le_right _ _
      · intro j hj
        exact hagain j (by omega)
      · rcases Nat.lt_or_ge k policy.maxAttempts with hbefore | hafter
        · rw [Nat.min_eq_left hbefore]
          exact Or.inr hfinal
        · exact Or.inl (Nat.min_eq_right (Nat.le_succ_of_le hafter))
    · intro hnone fuel
      have hrepeated : ∀ j < k, IsRepeated answer policy attempt c s j :=
        fun j hj => ⟨hagain j hj, Or.inl hnone⟩
      rcases Nat.lt_or_ge k fuel with hbefore | hafter
      · rw [Nat.min_eq_left hbefore, if_pos hbefore]
        exact makes_of_last hbefore hrepeated fun hk => hk.again hfinal
      · rw [Nat.min_eq_right (Nat.le_succ_of_le hafter), if_neg (Nat.not_lt.mpr hafter)]
        exact makes_of_repeated fun j hj => hrepeated j (Nat.lt_of_lt_of_le hj hafter)
  · intro hnever
    constructor
    · intro hlimit
      exact endsUnderLimit hlimit (Nat.le_refl _) (fun j _ => hnever j) (Or.inl rfl)
    · intro hnone fuel
      exact makes_of_repeated fun j _ => ⟨hnever j, Or.inl hnone⟩

/-!
### Attempts that follow a script
-/

/-- One kind of request, whose answers are the results of attempts. -/
abbrev attempting (α : Type) : Interface :=
  ⟨Unit, fun _ => Except Error α⟩

def asking (α : Type) : Procedure (attempting α) (Except Error α) :=
  request ()

/-- A script gives every attempt its result by the number of the attempts before it. -/
def inTurn (script : Nat → Except Error α) :
    (r : (attempting α).Request) → Nat → (attempting α).Answer r × Nat :=
  fun _ n => (script n, n + 1)

section

variable (script : Nat → Except Error α) (policy : RetryPolicy) (c : Clock)

/-- The state counts the attempts. -/
theorem beginning_inTurn (n : Nat) :
    (beginning (inTurn script) policy (asking α) c 0 n).2 = n := by
  induction n with
  | zero => rfl
  | succ n ih =>
      show (beginning (inTurn script) policy (asking α) c 0 n).2 + 1 = n + 1
      rw [ih]

theorem attemptResult_inTurn (n : Nat) :
    attemptResult (inTurn script) policy (asking α) c 0 n = script n := by
  show script (beginning (inTurn script) policy (asking α) c 0 n).2 = _
  rw [beginning_inTurn]

end

/-- Two failures that may pass, and from then on a success. -/
def thirdAttempt : Nat → Except Error String
  | 0 => .error (.timeout "no answer")
  | 1 => .error (.conflict "busy")
  | _ + 2 => .ok "saved"

def neverAnswered (_ : Nat) : Except Error String :=
  .error (.timeout "no answer")

def limitedTo (limit : Nat) : RetryPolicy where
  maxAttempts := limit

theorem not_isFinal_of_retryable {e : Error} (he : e.isRetryable = true) :
    ¬ IsFinal (.error e : Except Error α) := by
  rw [isFinal_error_iff, he]
  exact Bool.noConfusion

/-- A limit of five, or none, admits the third attempt, and a limit of two does not. -/
theorem retry_ends_by_third_attempt :
    MakesAttempts (inTurn thirdAttempt) (limitedTo 5) (asking String) {} 0 3
        (retryLimited (limitedTo 5) (by decide) (asking String)) (.ok "saved") ∧
      MakesAttempts (inTurn thirdAttempt) (limitedTo 2) (asking String) {} 0 2
        (retry (limitedTo 2) (asking String) 9) (some (.error (.conflict "busy"))) ∧
      MakesAttempts (inTurn thirdAttempt) (limitedTo 0) (asking String) {} 0 3
        (retry (limitedTo 0) (asking String) 9) (some (.ok "saved")) ∧
      MakesAttempts (inTurn neverAnswered) (limitedTo 4) (asking String) {} 0 4
        (retryLimited (limitedTo 4) (by decide) (asking String))
        (.error (.timeout "no answer")) := by
  have hagain (policy : RetryPolicy) :
      ∀ j < 2, ¬ IsFinal (attemptResult (inTurn thirdAttempt) policy (asking String) {} 0 j) := by
    intro j hj
    rw [attemptResult_inTurn]
    match j, hj with
    | 0, _ => exact not_isFinal_of_retryable rfl
    | 1, _ => exact not_isFinal_of_retryable rfl
  have hfinal (policy : RetryPolicy) :
      IsFinal (attemptResult (inTurn thirdAttempt) policy (asking String) {} 0 2) := by
    rw [attemptResult_inTurn]
    exact isFinal_ok "saved"
  have hnever (j : Nat) :
      ¬ IsFinal (attemptResult (inTurn neverAnswered) (limitedTo 4) (asking String) {} 0 j) := by
    rw [attemptResult_inTurn]
    exact not_isFinal_of_retryable rfl
  have hends (script : Nat → Except Error String) (limit : Nat) :=
    retry_ends_by_its_attempts (inTurn script) (limitedTo limit) (asking String) {} 0
  constructor
  · exact (((hends thirdAttempt 5).1 2 (hagain _) (hfinal _)).1 (by decide)).limited _
  constructor
  · exact (((hends thirdAttempt 2).1 2 (hagain _) (hfinal _)).1 (by decide)).shows 9 (by decide)
  constructor
  · exact ((hends thirdAttempt 0).1 2 (hagain _) (hfinal _)).2 rfl 9
  · exact (((hends neverAnswered 4).2 hnever).1 (by decide)).limited _

end Procedure
end PointInTime
