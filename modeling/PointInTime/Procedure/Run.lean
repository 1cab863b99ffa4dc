import PointInTime.Procedure.Basic

/-!
# Running a procedure

A procedure runs against anything that answers its requests, on a clock that only waits move.  A
cancellation is an instant of that clock: a pause that reaches it, or begins after it, ends there.
-/

namespace PointInTime

/-- Milliseconds since the start, and when the run is cancelled, if ever. -/
structure Clock where
  now : Nat := 0
  cancelAt : Option Nat := none
deriving Repr

namespace Clock

def advance (c : Clock) (d : Duration) : Clock :=
  { c with now := c.now + d.millis }

/-- A pause: it ends early where the cancellation comes first. -/
def pauseFor (c : Clock) (d : Duration) : Wake × Clock :=
  match c.cancelAt with
  | some t =>
      if t < c.now + d.millis ∨ t ≤ c.now then (.cancelled, { c with now := max c.now t })
      else (.elapsed, c.advance d)
  | none => (.elapsed, c.advance d)

end Clock

namespace Procedure

variable {I : Interface} {σ α β : Type}

def run (answer : (r : I.Request) → σ → I.Answer r × σ) :
    Procedure I α → Clock → σ → α × Clock × σ
  | done a, c, s => (a, c, s)
  | ask r next, c, s =>
      let (x, s) := answer r s
      run answer (next x) c s
  | sleep d next, c, s => run answer next (c.advance d) s
  | pause d next, c, s =>
      let (w, c) := c.pauseFor d
      run answer (next w) c s

theorem run_bind (answer : (r : I.Request) → σ → I.Answer r × σ) (p : Procedure I α)
    (f : α → Procedure I β) (c : Clock) (s : σ) :
    run answer (bind p f) c s =
      run answer (f (run answer p c s).1) (run answer p c s).2.1 (run answer p c s).2.2 := by
  induction p generalizing c s with
  | done a => rfl
  | ask r next ih => simp [run, ih]
  | sleep d next ih => simp [run, ih]
  | pause d next ih => simp [run, ih]

end Procedure
end PointInTime
