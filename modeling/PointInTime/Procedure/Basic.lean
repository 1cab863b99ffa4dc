import PointInTime.Duration

/-!
# Procedures

A procedure is a tree of what it asks of its surroundings: requests, each with a continuation for
every answer, and waits.  Nothing is said about how requests are answered, so that whatever holds
of all answers holds of a server that fails, changes between two requests, or serves others too.

A wait is a sleep, which always lasts, or a pause, which a cancellation cuts short.
-/

namespace PointInTime

structure Interface where
  Request : Type
  Answer : Request → Type

inductive Wake where
  | elapsed
  | cancelled
deriving DecidableEq, Repr

inductive Procedure (I : Interface) (α : Type) where
  | done (result : α)
  | ask (request : I.Request) (next : I.Answer request → Procedure I α)
  | sleep (time : Duration) (next : Procedure I α)
  | pause (time : Duration) (next : Wake → Procedure I α)

namespace Procedure

variable {I : Interface} {α β γ : Type}

def bind : Procedure I α → (α → Procedure I β) → Procedure I β
  | done a, f => f a
  | ask r next, f => ask r fun answer => bind (next answer) f
  | sleep d next, f => sleep d (bind next f)
  | pause d next, f => pause d fun w => bind (next w) f

instance : Monad (Procedure I) where
  pure := done
  bind := bind

def request (r : I.Request) : Procedure I (I.Answer r) :=
  ask r done

def sleepFor (d : Duration) : Procedure I Unit :=
  sleep d (done ())

def pauseFor (d : Duration) : Procedure I Wake :=
  pause d done

/-! ## Laws -/

@[simp] theorem bind_done (a : α) (f : α → Procedure I β) : bind (done a) f = f a := rfl

@[simp] theorem bind_ask (r : I.Request) (next : I.Answer r → Procedure I α)
    (f : α → Procedure I β) :
    bind (ask r next) f = ask r fun answer => bind (next answer) f := rfl

@[simp] theorem bind_sleep (d : Duration) (next : Procedure I α) (f : α → Procedure I β) :
    bind (sleep d next) f = sleep d (bind next f) := rfl

@[simp] theorem bind_pause (d : Duration) (next : Wake → Procedure I α) (f : α → Procedure I β) :
    bind (pause d next) f = pause d fun w => bind (next w) f := rfl

@[simp] theorem pure_eq_done (a : α) : (pure a : Procedure I α) = done a := rfl

@[simp] theorem bind_eq_bind (p : Procedure I α) (f : α → Procedure I β) :
    (p >>= f) = bind p f := rfl

theorem bind_assoc (p : Procedure I α) (f : α → Procedure I β) (g : β → Procedure I γ) :
    bind (bind p f) g = bind p fun a => bind (f a) g := by
  induction p with
  | done a => rfl
  | ask r next ih => simp [ih]
  | sleep d next ih => simp [ih]
  | pause d next ih => simp [ih]

theorem bind_done_right (p : Procedure I α) : bind p done = p := by
  induction p with
  | done a => rfl
  | ask r next ih => simp [ih]
  | sleep d next ih => simp [ih]
  | pause d next ih => simp [ih]

instance : LawfulMonad (Procedure I) :=
  LawfulMonad.mk' _ bind_done_right (fun _ _ => rfl) bind_assoc

end Procedure
end PointInTime
