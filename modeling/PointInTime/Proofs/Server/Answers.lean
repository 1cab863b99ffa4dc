import PointInTime.Proofs.Procedure.Passage
import PointInTime.Server.Store

/-!
# Answers of a server that may fail

A server answers a request from its objects, or the request fails with any error and changes
nothing.  A lossy server may besides carry a request out and fail to say so.  Stamps come from
elsewhere and may be anything.

What a request leaves alone is said once for each kind of object: only one request of all creates
restore jobs, and only one writes configurations.
-/

namespace PointInTime

namespace Request

def isCreateRestore : Request → Bool
  | createRestore _ => true
  | _ => false

def isApplyConfig : Request → Bool
  | applyConfig .. => true
  | _ => false

end Request

namespace Store

inductive Answers (s : Store) : (d : Demand) → d.Answer → Store → Prop where
  | served (r : Request) : Answers s (.server r) (s.perform r).1 (s.perform r).2
  | failed (r : Request) (e : Error) : Answers s (.server r) (Except.error e) s
  | stamped (stamp : Stamp) : Answers s .stamp stamp s

/-- The answers of a lossy server: a request may fail although it was carried out. -/
inductive LossyAnswers (s : Store) : (d : Demand) → d.Answer → Store → Prop where
  | answered {d : Demand} {x : d.Answer} {s' : Store} :
      Answers s d x s' → LossyAnswers s d x s'
  | lost (r : Request) (e : Error) :
      LossyAnswers s (.server r) (Except.error e) (s.perform r).2

def faulty (others : Store → Store → Prop) : Surroundings Server Store where
  answers := Answers
  drifts := others

def lossy (others : Store → Store → Prop) : Surroundings Server Store where
  answers := LossyAnswers
  drifts := others

/-- A server that never fails and lets others take a turn before every answer. -/
def serving (turn : Store → Store) (stamp : Stamp) : (d : Demand) → Store → d.Answer × Store
  | .server r, s => (turn s).perform r
  | .stamp, s => (stamp, turn s)

theorem answers_serving (turn : Store → Store) (stamp : Stamp) (d : Demand) (s : Store) :
    Answers (turn s) d (serving turn stamp d s).1 (serving turn stamp d s).2 := by
  cases d with
  | server r => exact Answers.served r
  | stamp => exact Answers.stamped stamp

theorem lossy_serving (others : Store → Store → Prop) (stamp : Stamp) (d : Demand) (s : Store) :
    (lossy others).answers s d (serving id stamp d s).1 (serving id stamp d s).2 :=
  LossyAnswers.answered (answers_serving id stamp d s)

theorem passes_serving {α : Type} {others : Store → Store → Prop} {turn : Store → Store}
    (hturn : ∀ s, turn s = s ∨ others s (turn s)) (stamp : Stamp) (p : Procedure Server α)
    (c : Clock) (s : Store) :
    Procedure.Passes (faulty others) s p (Procedure.exchanges (serving turn stamp) p c s)
      (Procedure.run (serving turn stamp) p c s).2.2
      (.done (Procedure.run (serving turn stamp) p c s).1) :=
  Procedure.passes_run (fun d s => ⟨turn s, hturn s, answers_serving turn stamp d s⟩) p c s

theorem passes_lossy {α : Type} {others : Store → Store → Prop} {s s' : Store}
    {p q : Procedure Server α} {log : History Server}
    (pass : Procedure.Passes (faulty others) s p log s' q) :
    Procedure.Passes (lossy others) s p log s' q := by
  apply Procedure.Passes.mono _ _ pass
  · intro s d x s' ha
    exact LossyAnswers.answered ha
  · intro s s' hd
    exact hd

/-!
## What a request leaves alone
-/

theorem restores_perform {r : Request} (hr : r.isCreateRestore = false) (s : Store) :
    (s.perform r).2.restores = s.restores := by
  cases r with
  | createRestore job => cases hr
  | createCluster c =>
      simp only [perform]
      split <;> rfl
  | createSecret scope secret =>
      simp only [perform]
      split <;> rfl
  | createNamespace name =>
      simp only [perform]
      split <;> rfl
  | _ => rfl

theorem configs_perform {r : Request} (hr : r.isApplyConfig = false) (s : Store) :
    (s.perform r).2.configs = s.configs := by
  cases r with
  | applyConfig scope name manager data => cases hr
  | createCluster c =>
      simp only [perform]
      split <;> rfl
  | createSecret scope secret =>
      simp only [perform]
      split <;> rfl
  | createRestore job =>
      simp only [perform]
      split <;> rfl
  | createNamespace name =>
      simp only [perform]
      split <;> rfl
  | _ => rfl

/-!
## What an answer says

On a lossy server a request was carried out or had no effect, and it was carried out if it
succeeded.
-/

theorem LossyAnswers.cases {s s' : Store} {r : Request} {x : Except Error r.Value}
    (h : LossyAnswers s (.server r) x s') :
    (s' = (s.perform r).2 ∧ (x = (s.perform r).1 ∨ ∃ e, x = Except.error e)) ∨
      (s' = s ∧ ∃ e, x = Except.error e) := by
  cases h with
  | answered h =>
      cases h with
      | served => exact Or.inl ⟨rfl, Or.inl rfl⟩
      | failed _ e => exact Or.inr ⟨rfl, e, rfl⟩
  | lost _ e => exact Or.inl ⟨rfl, Or.inr ⟨e, rfl⟩⟩

theorem LossyAnswers.of_ok {s s' : Store} {r : Request} {v : r.Value}
    (h : LossyAnswers s (.server r) (Except.ok v) s') :
    (s.perform r).1 = Except.ok v ∧ s' = (s.perform r).2 := by
  rcases h.cases with ⟨hs, hserved | ⟨e, hfailed⟩⟩ | ⟨_, e, hfailed⟩
  · exact ⟨hserved.symm, hs⟩
  · cases hfailed
  · cases hfailed

theorem LossyAnswers.of_stamp {s s' : Store} {stamp : Stamp}
    (h : LossyAnswers s .stamp stamp s') : s' = s := by
  cases h with
  | answered h =>
      cases h
      rfl

theorem LossyAnswers.restores_eq {s s' : Store} {r : Request} {x : Except Error r.Value}
    (h : LossyAnswers s (.server r) x s') (hr : r.isCreateRestore = false) :
    s'.restores = s.restores := by
  rcases h.cases with ⟨rfl, _⟩ | ⟨rfl, _⟩
  · exact restores_perform hr s
  · rfl

theorem LossyAnswers.configs_eq {s s' : Store} {r : Request} {x : Except Error r.Value}
    (h : LossyAnswers s (.server r) x s') (hr : r.isApplyConfig = false) :
    s'.configs = s.configs := by
  rcases h.cases with ⟨rfl, _⟩ | ⟨rfl, _⟩
  · exact configs_perform hr s
  · rfl

/-!
## What a listing says

A list is read as a whole or not at all, and then as if each of its objects were read alone.
-/

theorem filterMap_of_readList {α : Type} (read? : Object → Option α) {objects : List Json}
    {list : List Object} (h : readList objects = Except.ok list) :
    (∀ j ∈ objects, (Object.ofJson? j).isSome = true) ∧
      list.filterMap read? = objects.filterMap fun j => (Object.ofJson? j).bind read? := by
  have hall : objects.mapM Object.ofJson? = some list := by
    unfold readList at h
    split at h
    · rename_i list' hlist
      cases h
      exact hlist
    · cases h
  clear h
  induction objects generalizing list with
  | nil =>
      cases hall
      exact ⟨by simp, rfl⟩
  | cons j rest ih =>
      rw [List.mapM_cons] at hall
      simp only [Option.bind_eq_bind, Option.bind_eq_some_iff] at hall
      obtain ⟨o, hj, others, hrest, hlist⟩ := hall
      cases hlist
      obtain ⟨hsome, hothers⟩ := ih hrest
      constructor
      · intro j' hj'
        rcases List.mem_cons.mp hj' with rfl | hmem
        · simp [hj]
        · exact hsome j' hmem
      · simp [List.filterMap_cons, hj, hothers]

end Store
end PointInTime
