import PointInTime.Proofs.Procedure.Ensures

/-!
# Prompt procedures

A procedure that never waits takes no time, whatever it is answered.
-/

namespace PointInTime
namespace Procedure

variable {I : Interface} {α β : Type}

def Prompt : Procedure I α → Prop
  | .done _ => True
  | .ask _ next => ∀ x, Prompt (next x)
  | .sleep _ _ => False
  | .pause _ _ => False

theorem prompt_bind {p : Procedure I α} {f : α → Procedure I β} (hp : Prompt p)
    (hf : ∀ a, Prompt (f a)) : Prompt (bind p f) := by
  induction p with
  | done a => exact hf a
  | ask r next ih => exact fun x => ih x (hp x)
  | sleep d next ih => exact hp.elim
  | pause d next ih => exact hp.elim

theorem clock_of_prompt {σ : Type} (answer : (r : I.Request) → σ → I.Answer r × σ)
    {p : Procedure I α} (hp : Prompt p) (c : Clock) (s : σ) : (run answer p c s).2.1 = c := by
  induction p generalizing s with
  | done a => rfl
  | ask r next ih => exact ih _ (hp _) _
  | sleep d next ih => exact hp.elim
  | pause d next ih => exact hp.elim

end Procedure
end PointInTime
