import PointInTime.Proofs.Server.Alone
import PointInTime.Proofs.Server.Operation

/-!
# Looks

A look reads objects and changes nothing.  Main statement: a procedure that only looks, alone with a
server, leaves the objects as they are, and whatever it is told about them is so.
-/

namespace PointInTime

/-- Whether a request only reads objects. -/
def Request.isLook : Request → Bool
  | listBackups _ => true
  | getCluster _ _ => true
  | listClusters _ => true
  | getSecret _ _ => true
  | namespaceExists _ => true
  | getRestore _ _ => true
  | listRestores _ => true
  | getConfig _ _ => true
  | _ => false

def Demand.IsLook : Demand → Prop
  | .server r => r.isLook = true
  | .stamp => False

def Demand.IsWrite : Demand → Prop
  | .server r => r.isWrite = true
  | .stamp => False

def Looking (_ : History Server) (d : Demand) : Prop :=
  d.IsLook

theorem Store.perform_of_isLook {r : Request} (hr : r.isLook = true) (s : Store) :
    (s.perform r).2 = s := by
  cases r <;> first | rfl | cases hr

theorem Request.isWrite_of_isLook {r : Request} (hr : r.isLook = true) : r.isWrite = false := by
  cases r <;> first | rfl | cases hr

theorem Demand.IsLook.not_isWrite {d : Demand} (hd : d.IsLook) : ¬ d.IsWrite := by
  cases d with
  | server r => simp [IsWrite, Request.isWrite_of_isLook hd]
  | stamp => exact id

/-- A request has been answered with a value. -/
def Heard (h : History Server) (r : Request) (v : r.Value) : Prop :=
  (⟨.server r, Except.ok v⟩ : Exchange Server) ∈ h

theorem Heard.append {h : History Server} {r : Request} {v : r.Value} (hv : Heard h r v)
    (more : History Server) : Heard (h ++ more) r v :=
  List.mem_append_left more hv

theorem heard_append_singleton (h : History Server) (r : Request) (v : r.Value) :
    Heard (h ++ [⟨.server r, Except.ok v⟩]) r v :=
  List.mem_append_right h (List.mem_singleton_self _)

namespace Operation

variable {α : Type} {asks : History Server → Demand → Prop} {h : History Server} {x : Operation α}
variable {returns : History Server → α → Prop} {fails : History Server → Error → Prop}

theorem ensures_orMissing (e : Error) (o : Option α) :
    Ensures asks returns fails (orMissing e o) h ↔
      match o with
      | some a => returns h a
      | none => fails h e := by
  cases o <;> rfl

/-- All that is asked is a look, whatever comes of it. -/
def Looks (x : Operation α) : Prop :=
  ∀ h, Ensures Looking (fun _ _ => True) (fun _ _ => True) x h

theorem looks_of_ensures {returns : History Server → History Server → α → Prop}
    {fails : History Server → History Server → Error → Prop}
    (hx : ∀ h, Ensures Looking (returns h) (fails h) x h) : Looks x :=
  fun h => (hx h).mono (fun _ _ hd => hd) (fun _ _ _ => trivial) (fun _ _ _ => trivial)

theorem looks_send {r : Request} (hr : r.isLook = true) : Looks (send r) := by
  intro h
  rw [ensures_send]
  exact ⟨hr, fun _ => trivial, fun _ => trivial⟩

end Operation

/-!
## Looking alone
-/

/-- What was heard is what the objects say. -/
def Store.Bears (s : Store) (h : History Server) : Prop :=
  ∀ r v, Heard h r v → (s.perform r).1 = Except.ok v

theorem Store.bears_nil (s : Store) : s.Bears [] := by
  intro r v hv
  cases hv

/-- Looks change nothing, and what is answered to them is so. -/
def Store.AnswersLooks (isSo : (s : Store) → (r : Request) → r.Value → Prop)
    (E : Surroundings Server Store) : Prop :=
  ∀ s r x s', r.isLook = true → E.answers s (.server r) x s' →
    s' = s ∧ ∀ v, x = Except.ok v → isSo s r v

theorem Store.answersLooks_alone (stamp : Stamp) :
    AnswersLooks (fun s r v => (s.perform r).1 = Except.ok v) (alone stamp) := by
  rintro s r x s' hlook (hserved | ⟨rfl, e, rfl⟩)
  · obtain ⟨rfl, rfl⟩ := Prod.mk.inj hserved
    exact ⟨perform_of_isLook hlook s, fun _ hv => hv⟩
  · exact ⟨rfl, fun _ hv => nomatch hv⟩

theorem ensuresIn_of_looking {α : Type} {E : Surroundings Server Store} {s : Store}
    {isSo : (s : Store) → (r : Request) → r.Value → Prop} {h : History Server}
    {ends : History Server → α → Prop} {p : Procedure Server α}
    (hE : Store.AnswersLooks isSo E) (hp : Procedure.Ensures Looking ends p h)
    (hs : ∀ r v, Heard h r v → isSo s r v) :
    Procedure.EnsuresIn E (fun h _ d => Looking h d)
      (fun h s' a => s' = s ∧ (∀ r v, Heard h r v → isSo s r v) ∧ ends h a) p h s := by
  have hkept (h : History Server) (s' : Store) (d : Demand) (x : d.Answer) (s'' : Store)
      (hd : Looking h d) (ha : E.answers s' d x s'')
      (hs : s' = s ∧ ∀ r v, Heard h r v → isSo s r v) :
      s'' = s ∧ ∀ r v, Heard (h ++ [⟨d, x⟩]) r v → isSo s r v := by
    obtain ⟨rfl, hbears⟩ := hs
    cases d with
    | stamp => exact absurd hd id
    | server r =>
        obtain ⟨rfl, htold⟩ := hE _ r x s'' hd ha
        refine ⟨rfl, ?_⟩
        intro r' v hv
        rcases List.mem_append.mp hv with hold | hnew
        · exact hbears r' v hold
        · cases List.mem_singleton.mp hnew
          exact htold v rfl
  refine (hp.ensuresIn_of_invariant hkept ⟨rfl, hs⟩).mono ?_
  rintro h s' a ⟨⟨hstate, hbears⟩, hends⟩
  exact ⟨hstate, hbears, hends⟩

theorem ensuresIn_alone_of_looking {α : Type} {stamp : Stamp} {s : Store} {h : History Server}
    {ends : History Server → α → Prop} {p : Procedure Server α}
    (hp : Procedure.Ensures Looking ends p h) (hs : s.Bears h) :
    Procedure.EnsuresIn (Store.alone stamp) (fun h _ d => Looking h d)
      (fun h s' a => s' = s ∧ s.Bears h ∧ ends h a) p h s :=
  ensuresIn_of_looking (Store.answersLooks_alone stamp) hp hs

/-!
## What comes of looking
-/

namespace Store

variable {α β : Type} {stamp : Stamp} {c : Clock} {s : Store}

/-- What comes of an operation on a server that never fails and serves nobody else. -/
def outcome (stamp : Stamp) (c : Clock) (s : Store) (x : Operation α) : Except Error α :=
  (Procedure.run (serving id stamp) x.run c s).1

theorem run_send_of_isLook {r : Request} {v : r.Value} (hr : r.isLook = true)
    (hv : (s.perform r).1 = Except.ok v) :
    Procedure.run (serving id stamp) (Operation.send r).run c s = (Except.ok v, c, s) := by
  show ((s.perform r).1, c, (s.perform r).2) = _
  rw [hv, perform_of_isLook hr]

theorem outcome_lift (p : Procedure Server α) :
    s.outcome stamp c (liftM p : Operation α) =
      Except.ok (Procedure.run (serving id stamp) p c s).1 := by
  unfold outcome
  rw [ExceptT.run_liftM]
  exact congrArg Prod.fst (Procedure.run_bind _ p _ c s)

theorem outcome_send (stamp : Stamp) (c : Clock) (s : Store) (r : Request) :
    s.outcome stamp c (Operation.send r) = (s.perform r).1 := rfl

theorem outcome_map (f : α → β) (x : Operation α) :
    s.outcome stamp c (f <$> x) = f <$> s.outcome stamp c x := by
  unfold outcome
  rw [map_eq_pure_bind, ExceptT.run_bind, Procedure.bind_eq_bind, Procedure.run_bind]
  cases (Procedure.run (serving id stamp) x.run c s).1 <;> rfl

/-- What neither changes anything nor waits leaves the clock and the objects as they are. -/
theorem run_eq_of_looks {x : Operation α} (hlooks : Operation.Looks x)
    (hprompt : Operation.Prompt x) :
    Procedure.run (serving id stamp) x.run c s = (s.outcome stamp c x, c, s) := by
  have hends := Procedure.ends_of_ensuresIn (serving id stamp) id alone_serving
    (ensuresIn_alone_of_looking (hlooks []) s.bears_nil) c
  have hstate : (Procedure.run (serving id stamp) x.run c s).2.2 = s := hends.1
  have hclock : (Procedure.run (serving id stamp) x.run c s).2.1 = c :=
    Procedure.clock_of_prompt _ hprompt c s
  exact Prod.ext rfl (Prod.ext hclock hstate)

/-- One operation after another, of which the first one neither changes anything nor waits. -/
theorem outcome_bind {x : Operation α} (hlooks : Operation.Looks x) (hprompt : Operation.Prompt x)
    (f : α → Operation β) :
    s.outcome stamp c (x >>= f) = s.outcome stamp c x >>= fun a => s.outcome stamp c (f a) := by
  show (Procedure.run (serving id stamp) (x >>= f).run c s).1 = _
  rw [ExceptT.run_bind, Procedure.bind_eq_bind, Procedure.run_bind, run_eq_of_looks hlooks hprompt]
  cases s.outcome stamp c x <;> rfl

/-- What an operation exchanges with a server that never fails and serves nobody else. -/
def transcript (stamp : Stamp) (c : Clock) (s : Store) (x : Operation α) : History Server :=
  Procedure.exchanges (serving id stamp) x.run c s

/-- An operation ends as another one does, whose exchanges come last. -/
structure EndsAs (stamp : Stamp) (c : Clock) (s : Store) (x y : Operation α) : Prop where
  outcome_eq : s.outcome stamp c x = s.outcome stamp c y
  transcript_eq : ∃ before, s.transcript stamp c x = before ++ s.transcript stamp c y

theorem EndsAs.trans {x y z : Operation α} (hxy : s.EndsAs stamp c x y)
    (hyz : s.EndsAs stamp c y z) : s.EndsAs stamp c x z := by
  rcases hxy.transcript_eq with ⟨before, hbefore⟩
  rcases hyz.transcript_eq with ⟨middle, hmiddle⟩
  constructor
  · exact hxy.outcome_eq.trans hyz.outcome_eq
  · exact ⟨before ++ middle, by rw [hbefore, hmiddle, List.append_assoc]⟩

theorem endsAs_bind {x : Operation α} (hlooks : Operation.Looks x) (hprompt : Operation.Prompt x)
    (f : α → Operation β) {a : α} (ha : s.outcome stamp c x = Except.ok a) :
    s.EndsAs stamp c (x >>= f) (f a) := by
  constructor
  · rw [outcome_bind hlooks hprompt, ha]
    rfl
  · exists s.transcript stamp c x
    show Procedure.exchanges (serving id stamp) (x >>= f).run c s = _
    rw [ExceptT.run_bind, Procedure.bind_eq_bind, Procedure.exchanges_bind,
      run_eq_of_looks hlooks hprompt, ha]
    rfl

/-- How an operation that only looks ends, with what it was told. -/
theorem ends_of_looking (stamp : Stamp) (c : Clock) (s : Store) {x : Operation α}
    {returns : History Server → α → Prop} {fails : History Server → Error → Prop}
    (hx : Operation.Ensures Looking returns fails x []) :
    s.Bears (s.transcript stamp c x) ∧
      match s.outcome stamp c x with
      | .ok a => returns (s.transcript stamp c x) a
      | .error e => fails (s.transcript stamp c x) e := by
  have hends := Procedure.ends_of_ensuresIn (serving id stamp) id alone_serving
    (ensuresIn_alone_of_looking hx s.bears_nil) c
  exact hends.2

theorem exists_bears_of_outcome {x : Operation α} {returns : History Server → α → Prop}
    {fails : History Server → Error → Prop} {a : α}
    (hx : Operation.Ensures Looking returns fails x []) (ha : s.outcome stamp c x = Except.ok a) :
    ∃ h, s.Bears h ∧ returns h a := by
  rcases ends_of_looking stamp c s hx with ⟨hbears, hends⟩
  rw [ha] at hends
  exact ⟨_, hbears, hends⟩

end Store

end PointInTime
