import PointInTime.Proofs.Server.Looks
import PointInTime.Proofs.Server.Places

/-!
# Unreliable servers

A lossy server may besides refuse any request with any code.  A refusal is not always an error: to
whoever reads an object it may say that there is none.  What is heard from an unreliable server is
therefore what the objects say, or a denial.

Main statement: whatever an operation achieves against an unreliable server, where nobody else acts,
is the case at the end of every passage that ends in success.
-/

namespace PointInTime

theorem Request.isLook_of_refused_eq_ok {r : Request} {code : Nat} {reason message : String}
    {v : r.Value} (h : r.refused code reason message = Except.ok v) : r.isLook = true := by
  have hcreation (what name : String) :
      refusedCreation what name code reason message ≠ Except.ok () := by
    unfold refusedCreation
    split <;> nofun
  cases r with
  | createCluster c => exact absurd h (hcreation _ _)
  | createSecret scope secret => exact absurd h (hcreation _ _)
  | createRestore job => exact absurd h (hcreation _ _)
  | createNamespace name => cases h
  | applyConfig scope name manager data => cases h
  | exec scope pod container command => cases h
  | _ => rfl

theorem Request.eq_of_refusedReading_eq_ok {α : Type} {absent v : α} {code : Nat}
    {reason message : String} (h : refusedReading absent code reason message = Except.ok v) :
    v = absent := by
  unfold refusedReading at h
  split at h
  · cases h
    rfl
  · cases h

namespace Store

inductive UnreliableAnswers (s : Store) : (d : Demand) → d.Answer → Store → Prop where
  | lossy {d : Demand} {x : d.Answer} {s' : Store} :
      LossyAnswers s d x s' → UnreliableAnswers s d x s'
  | refused (r : Request) (code : Nat) (reason message : String) :
      UnreliableAnswers s (.server r) (r.refused code reason message) s

def unreliable (others : Store → Store → Prop) : Surroundings Server Store where
  answers := UnreliableAnswers
  drifts := others

theorem unreliable_serving (others : Store → Store → Prop) (stamp : Stamp) (d : Demand)
    (s : Store) :
    (unreliable others).answers s d (serving id stamp d s).1 (serving id stamp d s).2 :=
  UnreliableAnswers.lossy (lossy_serving others stamp d s)

theorem passes_unreliable {α : Type} {others : Store → Store → Prop} {s s' : Store}
    {p q : Procedure Server α} {log : History Server}
    (pass : Procedure.Passes (lossy others) s p log s' q) :
    Procedure.Passes (unreliable others) s p log s' q := by
  apply Procedure.Passes.mono _ _ pass
  · intro s d x s' ha
    exact UnreliableAnswers.lossy ha
  · intro s s' hd
    exact hd

/-- An answer is what the objects say, or a denial. -/
def Tells (s : Store) (r : Request) (v : r.Value) : Prop :=
  (s.perform r).1 = Except.ok v ∨
    ∃ code reason message, r.refused code reason message = Except.ok v

theorem Tells.listBackups {s : Store} {scope : String} {backups : List Backup}
    (h : s.Tells (.listBackups scope) backups) :
    (s.perform (.listBackups scope)).1 = Except.ok backups := by
  rcases h with hserved | ⟨_, _, _, hrefused⟩
  · exact hserved
  · cases hrefused

theorem Tells.listClusters {s : Store} {scope : String} {clusters : List Cluster}
    (h : s.Tells (.listClusters scope) clusters) :
    (s.perform (.listClusters scope)).1 = Except.ok clusters := by
  rcases h with hserved | ⟨_, _, _, hrefused⟩
  · exact hserved
  · cases hrefused

theorem Tells.getCluster {s : Store} {scope name : String} {c : Cluster}
    (h : s.Tells (.getCluster scope name) (some c)) :
    (s.perform (.getCluster scope name)).1 = Except.ok (some c) := by
  rcases h with hserved | ⟨_, _, _, hrefused⟩
  · exact hserved
  · cases Request.eq_of_refusedReading_eq_ok hrefused

theorem Tells.getSecret {s : Store} {scope name : String} {secret : Secret}
    (h : s.Tells (.getSecret scope name) (some secret)) :
    (s.perform (.getSecret scope name)).1 = Except.ok (some secret) := by
  rcases h with hserved | ⟨_, _, _, hrefused⟩
  · exact hserved
  · cases Request.eq_of_refusedReading_eq_ok hrefused

namespace UnreliableAnswers

variable {s s' : Store} {r : Request} {v : r.Value}

theorem tells (h : UnreliableAnswers s (.server r) (Except.ok v) s') : s.Tells r v := by
  generalize hx : (Except.ok v : Except Error r.Value) = x at h
  cases h with
  | lossy h =>
      subst hx
      exact Or.inl h.of_ok.1
  | refused _ code reason message => exact Or.inr ⟨code, reason, message, hx.symm⟩

/-- Only looks are denied: what was to be done has been done if the server says so. -/
theorem of_ok (h : UnreliableAnswers s (.server r) (Except.ok v) s') (hr : r.isLook = false) :
    (s.perform r).1 = Except.ok v ∧ s' = (s.perform r).2 := by
  generalize hx : (Except.ok v : Except Error r.Value) = x at h
  cases h with
  | lossy h =>
      subst hx
      exact h.of_ok
  | refused _ code reason message =>
      have hlook := Request.isLook_of_refused_eq_ok hx.symm
      rw [hr] at hlook
      cases hlook

theorem eq_or_eq {x : Except Error r.Value} (h : UnreliableAnswers s (.server r) x s') :
    s' = (s.perform r).2 ∨ s' = s := by
  cases h with
  | lossy h =>
      rcases h.cases with ⟨hs', _⟩ | ⟨hs', _⟩
      · exact Or.inl hs'
      · exact Or.inr hs'
  | refused => exact Or.inr rfl

theorem eq_of_stamp {stamp : Stamp} (h : UnreliableAnswers s .stamp stamp s') : s' = s := by
  cases h with
  | lossy h => exact h.of_stamp

theorem grows {d : Demand} {x : d.Answer} (h : UnreliableAnswers s d x s') : Grows s s' := by
  cases h with
  | lossy h => exact h.grows
  | refused => exact grows_refl s

end UnreliableAnswers

theorem answersLooks_unreliable (others : Store → Store → Prop) :
    AnswersLooks Tells (unreliable others) := by
  intro s r x s' hlook hanswer
  constructor
  · rcases UnreliableAnswers.eq_or_eq hanswer with rfl | rfl
    · exact perform_of_isLook hlook s
    · rfl
  · rintro v rfl
    exact UnreliableAnswers.tells hanswer

end Store

/-!
## What an operation achieves
-/

namespace Operation

variable {α β : Type} {s : Store}

/-- If an operation succeeds from a state, it has led to a state with a result. -/
def Achieves (s : Store) (x : Operation α) (returns : Store → α → Prop) : Prop :=
  EnsuresIn (Store.unreliable fun _ _ => False) (fun _ _ _ => True) (fun _ s' a => returns s' a)
    (fun _ _ _ => True) x [] s

theorem Achieves.anywhere {x : Operation α} {returns : Store → α → Prop}
    (hx : Achieves s x returns) (h : History Server) :
    EnsuresIn (Store.unreliable fun _ _ => False) (fun _ _ _ => True)
      (fun _ s' a => returns s' a) (fun _ _ _ => True) x h s :=
  Procedure.EnsuresIn.anywhere hx h

theorem Achieves.holds {x : Operation α} {returns : Store → α → Prop} (hx : Achieves s x returns)
    {log : History Server} {s' : Store} {a : α}
    (pass : Procedure.Passes (Store.unreliable fun _ _ => False) s x.run log s'
      (.done (Except.ok a))) : returns s' a :=
  pass.ends (fun _ _ => id) hx

theorem Achieves.mono {x : Operation α} {returns returns' : Store → α → Prop}
    (hx : Achieves s x returns) (hreturns : ∀ s' a, returns s' a → returns' s' a) :
    Achieves s x returns' :=
  EnsuresIn.mono (fun _ s' a ha => hreturns s' a ha) (fun _ _ _ => id) hx

theorem achieves_of (outcome : Except Error α) {returns : Store → α → Prop}
    (hreturns : ∀ a, outcome = Except.ok a → returns s a) : Achieves s (of outcome) returns := by
  cases outcome with
  | ok a => exact hreturns a rfl
  | error e => trivial

theorem achieves_orMissing (e : Error) (o : Option α) {returns : Store → α → Prop}
    (hreturns : ∀ a, o = some a → returns s a) : Achieves s (orMissing e o) returns := by
  cases o with
  | some a => exact hreturns a rfl
  | none => trivial

theorem achieves_bind {x : Operation α} {f : α → Operation β} {returns : Store → β → Prop}
    (hx : Achieves s x fun s' a => Achieves s' (f a) returns) : Achieves s (x >>= f) returns := by
  unfold Achieves
  rw [ensuresIn_bind]
  exact EnsuresIn.mono (fun h s' a ha => ha.anywhere h) (fun _ _ _ => id) hx

theorem achieves_look {r : Request} (hr : r.isLook = true) {returns : Store → r.Value → Prop}
    (hreturns : ∀ v, s.Tells r v → returns s v) : Achieves s (send r) returns := by
  refine ⟨trivial, ?_⟩
  intro outcome s' hanswer
  obtain ⟨rfl, htold⟩ := Store.answersLooks_unreliable _ s r outcome s' hr hanswer
  cases outcome with
  | error e => trivial
  | ok v => exact hreturns v (htold v rfl)

theorem achieves_deed {r : Request} (hr : r.isLook = false) {returns : Store → r.Value → Prop}
    (hreturns : ∀ v, (s.perform r).1 = Except.ok v → returns (s.perform r).2 v) :
    Achieves s (send r) returns := by
  refine ⟨trivial, ?_⟩
  intro outcome s' hanswer
  cases outcome with
  | error e => trivial
  | ok v =>
      obtain ⟨hv, rfl⟩ := Store.UnreliableAnswers.of_ok hanswer hr
      exact hreturns v hv

theorem achieves_newStamp {returns : Store → Stamp → Prop} (hreturns : ∀ stamp, returns s stamp) :
    Achieves s (liftM Procedure.newStamp : Operation Stamp) returns := by
  unfold Achieves
  rw [ensuresIn_lift]
  refine ⟨trivial, ?_⟩
  intro stamp s' hanswer
  rw [Store.UnreliableAnswers.eq_of_stamp hanswer]
  exact hreturns stamp

/-- What only looks is told what the objects say, or denied it. -/
theorem achieves_of_looking {x : Operation α} {returns : History Server → α → Prop}
    (hx : Ensures Looking returns (fun _ _ => True) x []) :
    Achieves s x fun s' a =>
      s' = s ∧ ∃ h, (∀ r v, Heard h r v → s.Tells r v) ∧ returns h a := by
  have hensured := ensuresIn_of_looking (Store.answersLooks_unreliable fun _ _ => False) hx
    (s := s) (fun _ _ hheard => nomatch hheard)
  refine Procedure.EnsuresIn.mono ?_ hensured.forget_asks
  rintro h s' outcome ⟨hstate, htold, hends⟩
  cases outcome with
  | ok a => exact ⟨hstate, h, htold, hends⟩
  | error e => trivial

/-- What every request of an operation keeps is kept by the operation. -/
theorem achieves_of_kept {x : Operation α} {asks : History Server → Demand → Prop}
    {returns : History Server → α → Prop} {P : Store → Prop}
    (hx : Ensures asks returns (fun _ _ => True) x [])
    (hkept : ∀ h s d v s', asks h d → Store.UnreliableAnswers s d v s' → P s → P s') (hs : P s) :
    Achieves s x fun s' _ => P s' := by
  have hensured := hx.ensuresIn_of_invariant (E := Store.unreliable fun _ _ => False)
    (fun h s d v s' hd ha hi => hkept h s d v s' hd ha hi) hs
  refine Procedure.EnsuresIn.mono ?_ hensured.forget_asks
  rintro h s' outcome ⟨hinv, _⟩
  cases outcome with
  | ok a => exact hinv
  | error e => trivial

end Operation
end PointInTime
