import PointInTime.Procedure.Basic
import PointInTime.Error

/-!
# Polling

Two ways to look again and again at something that others change.  `poll` waits for a condition in
whole intervals: it gives up as soon as the next interval would not fit into the time that is left.
`follow` watches something to its end: it shortens its last wait, so that it looks once more when
the time is up.  An interval of zero takes no time, so that time never runs out.
-/

namespace PointInTime
namespace Procedure

variable {I : Interface} {σ β : Type}

/-- More ticks than are ever waited for, where the ticks take no time. -/
def endless : Nat := UInt64.size

/-! ## Waiting for a condition -/

inductive PollEnd where
  | met
  | expired
  | cancelled
deriving DecidableEq, Repr

def PollEnd.result {ε : Type} (expiry cancellation : ε) : PollEnd → Except ε Unit
  | met => .ok ()
  | expired => .error expiry
  | cancelled => .error cancellation

/-- A check as a condition: one that fails does not hold. -/
def holds {ε : Type} (check : Procedure I (Except ε Bool)) : Procedure I Bool :=
  bind check fun
    | .ok b => done b
    | .error _ => done false

/-- Check a condition until it holds, at every `interval` as long as `left` admits one more; an
interval of zero is counted as one tick. -/
def pollWithin (interval : Duration) (check : Procedure I Bool) (left : Nat) :
    Procedure I PollEnd :=
  bind check fun holds =>
    if holds then done .met
    else if _h : left < max 1 interval.millis then done .expired
    else
      pause interval fun
        | .cancelled => done .cancelled
        | .elapsed => pollWithin interval check (left - max 1 interval.millis)
termination_by left
decreasing_by omega

/-- Check a condition until it holds or the next interval would not fit into the limit. -/
def poll (interval : Duration) (check : Procedure I Bool) (limit : Duration) :
    Procedure I PollEnd :=
  pollWithin interval check (if interval.millis = 0 then endless else limit.millis)

/-- Wait for a check to hold, and fail with a message when the limit is reached; the check failing
is no reason to. -/
def pollUntil (limit interval : Duration) (message : String) (cancellation : Error)
    (check : Procedure I (Except Error Bool)) : Procedure I (Except Error Unit) :=
  bind (poll interval (holds check) limit) fun ended =>
    done (ended.result (.timeout message) cancellation)

/-! ## Following to the end -/

/-- How following ended: decided, or with what was seen last when the time was up or cancelled. -/
inductive FollowEnd (β σ : Type) where
  | decided (result : β)
  | expired (seen : σ)
  | cancelled

/-- Look until something is decided, at every `interval` and once more when `left` is used up; an
interval of zero is counted as one tick. -/
def followWithin (interval : Duration) (look : σ → Procedure I (β ⊕ σ)) (seen : σ) (left : Nat) :
    Procedure I (FollowEnd β σ) :=
  bind (look seen) fun
    | .inl result => done (.decided result)
    | .inr seen =>
        if _h : left = 0 then done (.expired seen)
        else
          pause ⟨min interval.millis left⟩ fun
            | .cancelled => done .cancelled
            | .elapsed => followWithin interval look seen (left - max 1 (min interval.millis left))
termination_by left
decreasing_by omega

/-- Look until something is decided or the limit is reached. -/
def follow (interval : Duration) (look : σ → Procedure I (β ⊕ σ)) (seen : σ) (limit : Duration) :
    Procedure I (FollowEnd β σ) :=
  followWithin interval look seen
    (if interval.millis = 0 ∧ limit.millis ≠ 0 then endless else limit.millis)

end Procedure
end PointInTime
