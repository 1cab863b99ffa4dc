import PointInTime.Proofs.Server.Secrets

/-!
# Frank servers

A frank server is unreliable, but what it says of a secret that is to be created is so: it refuses
it as a conflict only where there was one of its name.  Nobody else acts.

A procedure is described by the states and the results that it can end with.  Main statement: what
is said to be created was created, what is said to be in the way was there before, and what fails
may or may not have been created.
-/

namespace PointInTime

namespace Store

def frank : Surroundings Server Store where
  answers s d x s' := UnreliableAnswers s d x s' ∧ s.IsCandid ⟨d, x⟩
  drifts _ _ := False

end Store

/-!
## The ends of a procedure
-/

namespace Procedure

variable {α β : Type} {s : Store}

/-- From a state a procedure comes to no end but one that is allowed. -/
def EndsFrankly (s : Store) (p : Procedure Server α) (ends : Store → α → Prop) : Prop :=
  EnsuresIn Store.frank (fun _ _ _ => True) (fun _ s' a => ends s' a) p [] s

theorem EndsFrankly.mono {p : Procedure Server α} {ends ends' : Store → α → Prop}
    (hp : EndsFrankly s p ends) (hends : ∀ s' a, ends s' a → ends' s' a) :
    EndsFrankly s p ends' :=
  EnsuresIn.mono (fun _ s' a ha => hends s' a ha) hp

theorem EndsFrankly.holds {p : Procedure Server α} {ends : Store → α → Prop}
    (hp : EndsFrankly s p ends) {log : History Server} {s' : Store} {a : α}
    (pass : Passes Store.frank s p log s' (.done a)) : ends s' a :=
  pass.ends (fun _ _ => id) hp

theorem endsFrankly_bind {p : Procedure Server α} {f : α → Procedure Server β}
    {ends : Store → β → Prop} (hp : EndsFrankly s p fun s' a => EndsFrankly s' (f a) ends) :
    EndsFrankly s (bind p f) ends := by
  unfold EndsFrankly
  rw [ensuresIn_bind]
  exact EnsuresIn.mono (fun h s' a ha => EnsuresIn.anywhere ha h) hp

end Procedure

namespace Operation

open Procedure (EndsFrankly)

variable {α β : Type} {s : Store}

/-- One operation after another; a failure of the first one is the end of both. -/
theorem endsFrankly_bind {x : Operation α} {f : α → Operation β}
    {ends : Store → Except Error β → Prop}
    (hreturns : EndsFrankly s x.run fun s' outcome =>
      match outcome with
      | .ok a => EndsFrankly s' (f a).run ends
      | .error e => ends s' (.error e)) :
    EndsFrankly s (x >>= f).run ends := by
  rw [ExceptT.run_bind]
  refine Procedure.endsFrankly_bind (hreturns.mono ?_)
  intro s' outcome h
  cases outcome with
  | ok a => exact h
  | error e => exact h

theorem endsFrankly_look {r : Request} (hr : r.isLook = true) :
    EndsFrankly s (send r).run fun s' outcome =>
      s' = s ∧ ∀ v, outcome = .ok v → s.Tells r v := by
  refine ⟨trivial, ?_⟩
  intro outcome s' hanswer
  exact Store.answersLooks_unreliable (fun _ _ => False) s r outcome s' hr hanswer.1

end Operation

/-!
## Creations
-/

namespace Store

/-- The store with one more secret. -/
def withSecret (s : Store) (secret : Secret) : Store :=
  { s with secrets := s.secrets ++ [secret.toJson] }

/-- What becomes of a secret that is to be created. -/
inductive Makes (s : Store) (secret : Secret) : Except Error Unit → Store → Prop where
  | created :
      find? (placeOf secret.toJson).1 (placeOf secret.toJson).2 s.secrets = none →
        Makes s secret (.ok ()) (s.withSecret secret)
  | occupied (message : String) :
      s.HasSecret (placeOf secret.toJson).1 (placeOf secret.toJson).2 →
        Makes s secret (.error (.conflict message)) s
  | failed {e : Error} (hother : ∀ message, e ≠ .conflict message) : Makes s secret (.error e) s
  | lost {e : Error} (hother : ∀ message, e ≠ .conflict message) :
      Makes s secret (.error e) (s.withSecret secret)

theorem eq_of_createSecret {s : Store} {scope : String} {secret : Secret}
    (h : (s.perform (.createSecret scope secret)).1 = Except.ok ()) :
    find? (placeOf secret.toJson).1 (placeOf secret.toJson).2 s.secrets = none ∧
      (s.perform (.createSecret scope secret)).2 = s.withSecret secret := by
  simp only [perform] at h ⊢
  cases hcreate : create secret.toJson s.secrets with
  | none =>
      rw [hcreate] at h
      cases h
  | some secrets =>
      rcases create_eq_some hcreate with ⟨hfree, rfl⟩
      exact ⟨hfree, rfl⟩

theorem eq_or_eq_of_createSecret (s : Store) (scope : String) (secret : Secret) :
    (s.perform (.createSecret scope secret)).2 = s ∨
      (s.perform (.createSecret scope secret)).2 = s.withSecret secret := by
  simp only [perform]
  cases hcreate : create secret.toJson s.secrets with
  | none => exact Or.inl rfl
  | some secrets =>
      rcases create_eq_some hcreate with ⟨_, rfl⟩
      exact Or.inr rfl

theorem eq_of_createSecret_of_hasSecret {s : Store} (scope : String) {secret : Secret}
    (h : s.HasSecret (placeOf secret.toJson).1 (placeOf secret.toJson).2) :
    (s.perform (.createSecret scope secret)).2 = s := by
  rcases h with ⟨j, hj⟩
  simp only [perform]
  cases hcreate : create secret.toJson s.secrets with
  | none => rfl
  | some secrets =>
      rw [(create_eq_some hcreate).1] at hj
      cases hj

theorem makes_of_frank {s s' : Store} {scope : String} {secret : Secret} {x : Except Error Unit}
    (h : frank.answers s (.server (.createSecret scope secret)) x s') : Makes s secret x s' := by
  rcases h with ⟨hanswer, hcandid⟩
  match x with
  | .ok () =>
      rcases hanswer.of_ok rfl with ⟨hmade, rfl⟩
      rcases eq_of_createSecret hmade with ⟨hfree, hstate⟩
      rw [hstate]
      exact Makes.created hfree
  | .error e =>
      by_cases hconflict : ∃ message, e = .conflict message
      · rcases hconflict with ⟨message, rfl⟩
        have hthere := hcandid scope secret message rfl
        have hstate : s' = s := by
          rcases hanswer.eq_or_eq with hdone | hidle
          · rw [hdone, eq_of_createSecret_of_hasSecret scope hthere]
          · exact hidle
        rw [hstate]
        exact Makes.occupied message hthere
      · have hother : ∀ message, e ≠ .conflict message := not_exists.mp hconflict
        rcases hanswer.eq_or_eq with hdone | rfl
        · rcases eq_or_eq_of_createSecret s scope secret with hidle | hmade
          · rw [hdone, hidle]
            exact Makes.failed hother
          · rw [hdone, hmade]
            exact Makes.lost hother
        · exact Makes.failed hother

/-- A server that never fails is frank. -/
theorem frank_serving (stamp : Stamp) (d : Demand) (s : Store) :
    frank.answers s d (serving id stamp d s).1 (serving id stamp d s).2 := by
  refine ⟨unreliable_serving (fun _ _ => False) stamp d s, ?_⟩
  intro scope secret message he
  cases hfree : find? (placeOf secret.toJson).1 (placeOf secret.toJson).2 s.secrets with
  | some j => exact ⟨j, hfree⟩
  | none =>
      have hd : d = .server (.createSecret scope secret) := congrArg Sigma.fst he
      subst hd
      have hmade := congrArg Prod.fst (perform_createSecret scope hfree)
      have hrefused : (s.perform (.createSecret scope secret)).1 =
          Except.error (.conflict message) := eq_of_heq (Sigma.mk.inj he).2
      rw [hmade] at hrefused
      cases hrefused

end Store

namespace Operation

open Procedure (EndsFrankly)

theorem endsFrankly_createSecret (s : Store) (scope : String) (secret : Secret) :
    EndsFrankly s (createSecret scope secret).run fun s' outcome =>
      s.Makes secret outcome s' :=
  ⟨trivial, fun _ _ hanswer => Store.makes_of_frank hanswer⟩

/-- A cluster that was created is where it belongs, and no secret has changed. -/
theorem endsFrankly_createCluster (s : Store) {c : Cluster} {scope name : String}
    (hplace : Store.placeOf c.toJson = (scope, name)) :
    EndsFrankly s (createCluster c).run fun s' outcome =>
      outcome = .ok () →
        Store.find? scope name s'.clusters = some c.toJson ∧ s'.secrets = s.secrets := by
  refine ⟨trivial, ?_⟩
  intro outcome s' hanswer hcreated
  rcases hanswer with ⟨hanswer, _⟩
  rw [hcreated] at hanswer
  rcases hanswer.of_ok rfl with ⟨hmade, rfl⟩
  rcases Store.eq_of_createCluster hmade with ⟨_, hstate⟩
  exact ⟨(Store.find?_of_createCluster hplace hmade).2, by rw [hstate]⟩

end Operation
end PointInTime
