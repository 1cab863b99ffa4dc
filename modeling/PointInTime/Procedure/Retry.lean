import PointInTime.Procedure.Basic
import PointInTime.Error

/-!
# Retrying

An attempt that fails with an error worth repeating is made again after a delay, which grows up to
a bound.  A success and an error of any other kind end the attempts at once, and so does the limit
on their number, if there is one.  Without a limit no number of attempts need show a result.

How far a delay is stretched or cut at random, and how it grows, are parts of a policy, so that what
holds for every policy holds for every draw and every factor.
-/

namespace PointInTime

structure RetryPolicy where
  /-- The limit on the number of attempts, none at 0. -/
  maxAttempts : Nat := 5
  initialDelay : Duration := ⟨200⟩
  maxDelay : Duration := ⟨10000⟩
  /-- What a delay grows to as long as it stays within the bound: a multiple of it. -/
  growth : Duration → Duration := fun d => ⟨2 * d.millis⟩
  /-- What is slept after so many attempts in place of a delay.  The draw is between a half and
  three halves of the delay; without one it is the delay. -/
  jitter : Nat → Duration → Duration := fun _ d => d

namespace RetryPolicy

def nextDelay (policy : RetryPolicy) (d : Duration) : Duration :=
  ⟨min (policy.growth d).millis policy.maxDelay.millis⟩

/-- Whether so many attempts are all that may be made. -/
def isExhausted (policy : RetryPolicy) (made : Nat) : Bool :=
  0 < policy.maxAttempts && policy.maxAttempts ≤ made

theorem isExhausted_eq_false {policy : RetryPolicy} {made : Nat} :
    policy.isExhausted made = false ↔ policy.maxAttempts = 0 ∨ made < policy.maxAttempts := by
  simp only [isExhausted, Bool.and_eq_false_iff, decide_eq_false_iff_not]
  omega

theorem maxAttempts_default_pos : 0 < ({} : RetryPolicy).maxAttempts :=
  Nat.succ_pos 4

end RetryPolicy

namespace Procedure

variable {I : Interface} {α β : Type} {policy : RetryPolicy}

/-! ## Attempts -/

/-- Attempts after a number of others and with a delay to begin with, as far as `fuel` of them show
a result. -/
def retryFrom (policy : RetryPolicy) (attempt : Procedure I (Except Error α)) :
    (fuel made : Nat) → Duration → Procedure I (Option (Except Error α))
  | 0, _, _ => done none
  | fuel + 1, made, delay =>
      bind attempt fun
        | .ok a => done (some (.ok a))
        | .error e =>
            if !e.isRetryable || policy.isExhausted (made + 1) then done (some (.error e))
            else
              sleep (policy.jitter (made + 1) delay)
                (retryFrom policy attempt fuel (made + 1) (policy.nextDelay delay))

/-- Attempts until one ends them, as far as `fuel` of them show a result. -/
def retry (policy : RetryPolicy) (attempt : Procedure I (Except Error α)) (fuel : Nat) :
    Procedure I (Option (Except Error α)) :=
  retryFrom policy attempt fuel 0 policy.initialDelay

/-! ## Results that show -/

/-- Whatever is answered, a result shows in the end. -/
def Shows : Procedure I (Option α) → Prop
  | done result => result.isSome = true
  | ask _ next => ∀ answer, (next answer).Shows
  | sleep _ next => next.Shows
  | pause _ next => ∀ w, (next w).Shows

def shown : (p : Procedure I (Option α)) → p.Shows → Procedure I α
  | done result, h => done (result.get h)
  | ask r next, h => ask r fun answer => (next answer).shown (h answer)
  | sleep d next, h => sleep d (next.shown h)
  | pause d next, h => pause d fun w => (next w).shown (h w)

theorem bind_shown (p : Procedure I (Option α)) (h : p.Shows) :
    bind (p.shown h) (fun a => done (some a)) = p := by
  induction p with
  | done result => exact congrArg done (Option.some_get h)
  | ask r next ih => exact congrArg (ask r) (funext fun answer => ih answer (h answer))
  | sleep d next ih => exact congrArg (sleep d) (ih h)
  | pause d next ih => exact congrArg (pause d) (funext fun w => ih w (h w))

theorem shows_bind {p : Procedure I β} {f : β → Procedure I (Option α)} (h : ∀ b, (f b).Shows) :
    (bind p f).Shows := by
  induction p with
  | done b => exact h b
  | ask r next ih => exact ih
  | sleep d next ih => exact ih
  | pause d next ih => exact ih

/-! ## Attempts under a limit -/

theorem shows_retryFrom {fuel made : Nat} (hlimit : 0 < policy.maxAttempts)
    (hmade : made < policy.maxAttempts) (hfuel : policy.maxAttempts ≤ made + fuel)
    (attempt : Procedure I (Except Error α)) (delay : Duration) :
    (retryFrom policy attempt fuel made delay).Shows := by
  induction fuel generalizing made delay with
  | zero => exact absurd hmade (Nat.not_lt.mpr hfuel)
  | succ fuel ih =>
      apply shows_bind
      intro result
      cases result with
      | ok a => exact rfl
      | error e =>
          show Shows (if _ then _ else _)
          split
          · exact rfl
          · rename_i hgoesOn
            rw [Bool.or_eq_true, not_or, Bool.not_eq_true, Bool.not_eq_true,
              RetryPolicy.isExhausted_eq_false] at hgoesOn
            have hmore : made + 1 < policy.maxAttempts := by omega
            exact ih hmore (by omega) _

/-- Attempts under a limit, which all show their result. -/
def retryLimited (policy : RetryPolicy) (hlimit : 0 < policy.maxAttempts)
    (attempt : Procedure I (Except Error α)) : Procedure I (Except Error α) :=
  (retry policy attempt policy.maxAttempts).shown
    (shows_retryFrom hlimit hlimit (Nat.le_of_eq (Nat.zero_add _).symm) attempt _)

end Procedure
end PointInTime
