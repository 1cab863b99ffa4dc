import PointInTime.Proofs.Procedure.EnsuresIn
import PointInTime.Proofs.Server.Answers

/-!
# Alone with a server

A procedure that nobody interferes with, on a server whose requests fail now and then: a request is
answered from the objects, or it fails with any error and changes nothing.  Which requests fail is a
pattern, by the number of the call.

Main statement: as long as no call of a run fails, the run is that on a server that never fails.
-/

namespace PointInTime

namespace Store

/-- Requests may fail, all stamps are this one, and nobody else acts. -/
def alone (stamp : Stamp) : Surroundings Server Store where
  answers
    | s, .server r, x, s' => (x, s') = s.perform r ∨ s' = s ∧ ∃ e, x = Except.error e
    | s, .stamp, x, s' => x = stamp ∧ s' = s
  drifts _ _ := False

/-- A server on which the calls of some numbers fail; the state is the number of the next call and
the objects. -/
def failing (faults : Nat → Option Error) (stamp : Stamp) :
    (d : Demand) → Nat × Store → d.Answer × (Nat × Store)
  | .server r, (n, s) =>
      match faults n with
      | some e => (Except.error e, n + 1, s)
      | none => ((s.perform r).1, n + 1, (s.perform r).2)
  | .stamp, (n, s) => (stamp, n, s)

variable {faults : Nat → Option Error} {stamp : Stamp}

theorem alone_failing (d : Demand) (t : Nat × Store) :
    (alone stamp).answers t.2 d (failing faults stamp d t).1 (failing faults stamp d t).2.2 := by
  rcases t with ⟨n, s⟩
  cases d with
  | stamp => exact ⟨rfl, rfl⟩
  | server r =>
      cases hn : faults n with
      | none =>
          left
          simp only [failing, hn]
          rfl
      | some e =>
          right
          simp only [failing, hn]
          exact ⟨trivial, e, rfl⟩

theorem alone_serving (d : Demand) (s : Store) :
    (alone stamp).answers s d (serving id stamp d s).1 (serving id stamp d s).2 := by
  cases d with
  | stamp => exact ⟨rfl, rfl⟩
  | server r => exact Or.inl rfl

theorem failing_of_none (stamp : Stamp) (d : Demand) (s : Store) {n : Nat} (hn : faults n = none) :
    ∃ m, failing faults stamp d (n, s) =
        ((serving id stamp d s).1, m, (serving id stamp d s).2) ∧ n ≤ m ∧ m ≤ n + 1 := by
  cases d with
  | stamp => exact ⟨n, rfl, Nat.le_refl _, Nat.le_succ _⟩
  | server r => exact ⟨n + 1, by simp [failing, hn, serving], Nat.le_succ _, Nat.le_refl _⟩

theorem run_failing {α : Type} (stamp : Stamp) (p : Procedure Server α) (c : Clock) (s : Store)
    {n : Nat} (hfaults : ∀ m < n + (Procedure.exchanges (serving id stamp) p c s).length,
      n ≤ m → faults m = none) :
    Procedure.exchanges (failing faults stamp) p c (n, s) =
        Procedure.exchanges (serving id stamp) p c s ∧
      ∃ m, Procedure.run (failing faults stamp) p c (n, s) =
        ((Procedure.run (serving id stamp) p c s).1, (Procedure.run (serving id stamp) p c s).2.1,
          m, (Procedure.run (serving id stamp) p c s).2.2) := by
  induction p generalizing n c s with
  | done a => exact ⟨rfl, n, rfl⟩
  | ask d next ih =>
      simp only [Procedure.exchanges, List.length_cons] at hfaults
      obtain ⟨m, hanswer, hlow, hhigh⟩ :=
        failing_of_none stamp d s (hfaults n (by omega) (Nat.le_refl n))
      simp only [Procedure.exchanges, Procedure.run, hanswer]
      obtain ⟨hlog, hrun⟩ := ih (serving id stamp d s).1 c (serving id stamp d s).2
        (fun k hk (hmk : m ≤ k) => hfaults k (by omega) (by omega))
      exact ⟨by rw [hlog], hrun⟩
  | sleep d next ih => exact ih _ _ hfaults
  | pause d next ih => exact ih _ _ _ hfaults

end Store

namespace Operation

variable {α β σ : Type} {E : Surroundings Server σ}
variable {asks : History Server → σ → Demand → Prop} {h : History Server} {s : σ}
variable {returns : History Server → σ → α → Prop} {fails : History Server → σ → Error → Prop}

def EnsuresIn (E : Surroundings Server σ) (asks : History Server → σ → Demand → Prop)
    (returns : History Server → σ → α → Prop) (fails : History Server → σ → Error → Prop)
    (x : Operation α) (h : History Server) (s : σ) : Prop :=
  Procedure.EnsuresIn E asks
    (fun h s outcome => match outcome with
      | .ok a => returns h s a
      | .error e => fails h s e)
    x.run h s

theorem ensuresIn_iff (x : Operation α) :
    EnsuresIn E asks returns fails x h s ↔
      Procedure.EnsuresIn E asks
        (fun h s outcome => match outcome with
          | .ok a => returns h s a
          | .error e => fails h s e)
        x.run h s := Iff.rfl

@[simp] theorem ensuresIn_pure (a : α) :
    EnsuresIn E asks returns fails (pure a) h s ↔ returns h s a := Iff.rfl

@[simp] theorem ensuresIn_bind {returns : History Server → σ → β → Prop} (x : Operation α)
    (f : α → Operation β) :
    EnsuresIn E asks returns fails (x >>= f) h s ↔
      EnsuresIn E asks (fun h s a => EnsuresIn E asks returns fails (f a) h s) fails x h s := by
  rw [ensuresIn_iff, ExceptT.run_bind, Procedure.bind_eq_bind, Procedure.ensuresIn_bind,
    ensuresIn_iff]
  apply iff_of_eq
  congr 1
  funext h s outcome
  cases outcome with
  | ok a => rfl
  | error e => rfl

@[simp] theorem ensuresIn_of (outcome : Except Error α) :
    EnsuresIn E asks returns fails (of outcome) h s ↔
      match outcome with
      | .ok a => returns h s a
      | .error e => fails h s e := Iff.rfl

theorem ensuresIn_lift {returns : History Server → σ → α → Prop} (p : Procedure Server α) :
    EnsuresIn E asks returns fails (liftM p : Operation α) h s ↔
      Procedure.EnsuresIn E asks returns p h s := by
  rw [ensuresIn_iff, ExceptT.run_liftM]
  exact Procedure.ensuresIn_bind p _

theorem EnsuresIn.mono {returns' : History Server → σ → α → Prop}
    {fails' : History Server → σ → Error → Prop}
    (hreturns : ∀ h s a, returns h s a → returns' h s a)
    (hfails : ∀ h s e, fails h s e → fails' h s e) {x : Operation α}
    (hx : EnsuresIn E asks returns fails x h s) : EnsuresIn E asks returns' fails' x h s := by
  refine Procedure.EnsuresIn.mono ?_ hx
  intro h s outcome
  cases outcome with
  | ok a => exact hreturns h s a
  | error e => exact hfails h s e

/-- A request that the server can grant: it gives what the objects say, or it fails. -/
theorem ensuresIn_send {stamp : Stamp} {r : Request} {v : r.Value} {x y : Store}
    {asks : History Server → Store → Demand → Prop}
    {returns : History Server → Store → r.Value → Prop}
    {fails : History Server → Store → Error → Prop}
    (hgranted : x.perform r = (Except.ok v, y)) (hasks : asks h x (.server r))
    (hreturns : returns (h ++ [⟨.server r, Except.ok v⟩]) y v)
    (hfails : ∀ e, fails (h ++ [⟨.server r, Except.error e⟩]) x e) :
    EnsuresIn (Store.alone stamp) asks returns fails (send r) h x := by
  refine ⟨hasks, fun outcome x' hanswer => ?_⟩
  rcases hanswer with hserved | ⟨rfl, e, rfl⟩
  · rw [hgranted] at hserved
    rcases Prod.mk.inj hserved with ⟨rfl, rfl⟩
    exact hreturns
  · exact hfails e

end Operation
end PointInTime
