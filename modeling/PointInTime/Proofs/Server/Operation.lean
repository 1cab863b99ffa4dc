import PointInTime.Proofs.Procedure.Course
import PointInTime.Server.Request

/-!
# What an operation ensures

An operation returns a value or fails.  Its description has one part for either end, and an
operation that follows another one is described from where the first one returned; a failure of the
first one is a failure of both.
-/

namespace PointInTime
namespace Operation

variable {α β : Type}
variable {asks : History Server → Demand → Prop} {h : History Server}
variable {returns : History Server → α → Prop} {fails : History Server → Error → Prop}

def Ensures (asks : History Server → Demand → Prop) (returns : History Server → α → Prop)
    (fails : History Server → Error → Prop) (x : Operation α) (h : History Server) : Prop :=
  Procedure.Ensures asks
    (fun h outcome => match outcome with
      | .ok a => returns h a
      | .error e => fails h e)
    x.run h

theorem ensures_iff (x : Operation α) :
    Ensures asks returns fails x h ↔
      Procedure.Ensures asks
        (fun h outcome => match outcome with
          | .ok a => returns h a
          | .error e => fails h e)
        x.run h := Iff.rfl

@[simp] theorem ensures_bind {returns : History Server → β → Prop} (x : Operation α)
    (f : α → Operation β) :
    Ensures asks returns fails (x >>= f) h ↔
      Ensures asks (fun h a => Ensures asks returns fails (f a) h) fails x h := by
  rw [ensures_iff, ExceptT.run_bind, Procedure.bind_eq_bind, Procedure.ensures_bind, ensures_iff]
  apply iff_of_eq
  congr 1
  funext h outcome
  cases outcome with
  | ok a => rfl
  | error e => rfl

@[simp] theorem ensures_lift (p : Procedure Server α) :
    Ensures asks returns fails (liftM p : Operation α) h ↔
      Procedure.Ensures asks returns p h := by
  rw [ensures_iff, ExceptT.run_liftM]
  exact Procedure.ensures_bind p _

@[simp] theorem ensures_of (outcome : Except Error α) :
    Ensures asks returns fails (of outcome) h ↔
      match outcome with
      | .ok a => returns h a
      | .error e => fails h e := Iff.rfl

@[simp] theorem ensures_send {r : Request} {returns : History Server → r.Value → Prop} :
    Ensures asks returns fails (send r) h ↔
      asks h (.server r) ∧
        (∀ v : r.Value, returns (h ++ [⟨.server r, Except.ok v⟩]) v) ∧
        ∀ e, fails (h ++ [⟨.server r, Except.error e⟩]) e := by
  rw [ensures_iff]
  constructor
  · intro hsend
    exact ⟨hsend.1, fun v => hsend.2 (Except.ok v), fun e => hsend.2 (Except.error e)⟩
  · intro hsend
    refine ⟨hsend.1, fun x => ?_⟩
    cases x with
    | ok v => exact hsend.2.1 v
    | error e => exact hsend.2.2 e

theorem Ensures.mono {asks' : History Server → Demand → Prop}
    {returns' : History Server → α → Prop} {fails' : History Server → Error → Prop}
    (hasks : ∀ more d, asks (h ++ more) d → asks' (h ++ more) d)
    (hreturns : ∀ more a, returns (h ++ more) a → returns' (h ++ more) a)
    (hfails : ∀ more e, fails (h ++ more) e → fails' (h ++ more) e)
    {x : Operation α} (hx : Ensures asks returns fails x h) :
    Ensures asks' returns' fails' x h := by
  refine Procedure.Ensures.mono hasks ?_ hx
  intro more outcome
  cases outcome with
  | ok a => exact hreturns more a
  | error e => exact hfails more e

/-!
## Operations that never wait
-/

def Prompt (x : Operation α) : Prop :=
  Procedure.Prompt x.run

theorem prompt_of (outcome : Except Error α) : Prompt (of outcome) :=
  trivial

theorem prompt_send (r : Request) : Prompt (send r) :=
  fun _ => trivial

theorem prompt_orMissing (e : Error) (o : Option α) : Prompt (orMissing e o) := by
  cases o <;> trivial

theorem prompt_bind {x : Operation α} {f : α → Operation β} (hx : Prompt x)
    (hf : ∀ a, Prompt (f a)) : Prompt (x >>= f) := by
  unfold Prompt
  rw [ExceptT.run_bind, Procedure.bind_eq_bind]
  apply Procedure.prompt_bind hx
  intro outcome
  cases outcome with
  | ok a => exact hf a
  | error e => trivial

theorem prompt_lift {p : Procedure Server α} (hp : Procedure.Prompt p) :
    Prompt (liftM p : Operation α) := by
  unfold Prompt
  rw [ExceptT.run_liftM]
  exact Procedure.prompt_bind hp fun _ => trivial

theorem prompt_mapM {γ : Type} {f : γ → Operation α} (hf : ∀ c, Prompt (f c)) (l : List γ) :
    Prompt (l.mapM f) := by
  induction l with
  | nil => trivial
  | cons c rest ih =>
      rw [List.mapM_cons]
      exact prompt_bind (hf c) fun _ => prompt_bind ih fun _ => prompt_of _

theorem prompt_foldlM {γ : Type} {f : α → γ → Operation α} (hf : ∀ a c, Prompt (f a c))
    (l : List γ) (a : α) : Prompt (l.foldlM f a) := by
  induction l generalizing a with
  | nil => trivial
  | cons c rest ih =>
      rw [List.foldlM_cons]
      exact prompt_bind (hf a c) fun a' => ih a'

/-!
## The course of an operation
-/

/-- The first of two operations failed, or the second one went on where the first one returned. -/
theorem lasts_bind {x : Operation α} {f : α → Operation β} {c c' : Clock}
    {log : Procedure.Chronicle Server} {outcome : Except Error β}
    (course : Procedure.Lasts c (x >>= f).run log c' outcome) :
    (∃ e, outcome = Except.error e ∧ Procedure.Lasts c x.run log c' (Except.error e)) ∨
      ∃ a before after middle, log = before ++ after ∧
        Procedure.Lasts c x.run before middle (Except.ok a) ∧
        Procedure.Lasts middle (f a).run after c' outcome := by
  rw [ExceptT.run_bind, Procedure.bind_eq_bind] at course
  rcases Procedure.lasts_bind course with ⟨first, before, after, middle, rfl, hfirst, hsecond⟩
  cases first with
  | ok a => exact Or.inr ⟨a, before, after, middle, rfl, hfirst, hsecond⟩
  | error e =>
      cases hsecond
      rw [List.append_nil]
      exact Or.inl ⟨e, rfl, hfirst⟩

theorem lasts_send {r : Request} {c c' : Clock} {log : Procedure.Chronicle Server}
    {outcome : Except Error r.Value} (course : Procedure.Lasts c (send r).run log c' outcome) :
    c' = c ∧ log = [(c.now, ⟨.server r, outcome⟩)] := by
  cases course with
  | ask hnext =>
      cases hnext
      exact ⟨rfl, rfl⟩

/-- Attempts repeat one request, and the last answer is the outcome. -/
theorem lasts_retryLimited {policy : RetryPolicy} {hlimit : 0 < policy.maxAttempts} {r : Request}
    {c c' : Clock} {log : Procedure.Chronicle Server} {outcome : Except Error r.Value}
    (course : Procedure.Lasts c (Procedure.retryLimited policy hlimit (send r).run) log c'
      outcome) :
    ∃ t, Procedure.Repeats (I := Server) (.server r) (fun y => ∃ e, y = Except.error e) log t
      outcome := by
  have hsend : (send r).run =
      Procedure.ask (I := Server) (.server r) fun x => .done (id x) := rfl
  rcases Procedure.lasts_retryFrom hsend course.of_shown with ⟨t, x, hrepeats, rfl⟩
  exact ⟨t, hrepeats⟩

theorem lasts_bind_of {x : Operation α} {f : α → Except Error β} {c c' : Clock}
    {log : Procedure.Chronicle Server} {outcome : Except Error β}
    (course : Procedure.Lasts c (x >>= fun a => of (f a)).run log c' outcome) :
    ∃ first, Procedure.Lasts c x.run log c' first ∧ outcome = first >>= f := by
  rcases lasts_bind course with ⟨e, rfl, hfirst⟩ | ⟨a, before, _, middle, rfl, hfirst, hsecond⟩
  · exact ⟨Except.error e, hfirst, rfl⟩
  · cases hsecond
    rw [List.append_nil]
    exact ⟨Except.ok a, hfirst, rfl⟩

end Operation
end PointInTime
