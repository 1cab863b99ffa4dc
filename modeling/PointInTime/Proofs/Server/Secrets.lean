import PointInTime.Proofs.Server.Unreliable

/-!
# Secrets that are there

A secret is there once it has been read or created, as long as nobody removes it.  A creation that
is refused may say the same: that the secret has been created by someone else.

Main statement: on a server that says so only where it is true, whatever has been said to be there
is there.
-/

namespace PointInTime
namespace Store

def HasSecret (s : Store) (scope name : String) : Prop :=
  ∃ j, find? scope name s.secrets = some j

instance (s : Store) (scope name : String) : Decidable (s.HasSecret scope name) :=
  decidable_of_iff _ Option.isSome_iff_exists

/-- No secret is gone. -/
def KeepsSecrets (s s' : Store) : Prop :=
  ∀ scope name, s.HasSecret scope name → s'.HasSecret scope name

theorem Grows.keepsSecrets {s s' : Store} (h : Grows s s') : s.KeepsSecrets s' := by
  rintro scope name ⟨j, hj⟩
  exact ⟨j, find?_of_prefix h.secrets hj⟩

theorem hasSecret_of_create_eq_none {s : Store} {j : Json} (h : create j s.secrets = none) :
    s.HasSecret (placeOf j).1 (placeOf j).2 := by
  unfold create at h
  split at h
  · rename_i htaken
    rw [List.any_eq_true] at htaken
    obtain ⟨other, hmem, hat⟩ := htaken
    exact Option.isSome_iff_exists.mp (List.find?_isSome.mpr ⟨other, hmem, hat⟩)
  · cases h

theorem hasSecret_perform_createSecret (s : Store) (scope : String) (secret : Secret) :
    (s.perform (.createSecret scope secret)).2.HasSecret (placeOf secret.toJson).1
      (placeOf secret.toJson).2 := by
  simp only [perform]
  cases hcreate : create secret.toJson s.secrets with
  | none => exact hasSecret_of_create_eq_none hcreate
  | some secrets =>
      obtain ⟨_, rfl⟩ := create_eq_some hcreate
      refine Option.isSome_iff_exists.mp (List.find?_isSome.mpr ⟨secret.toJson, ?_, ?_⟩)
      · exact List.mem_append_right _ (List.mem_singleton_self _)
      · exact isAt_iff.mpr rfl

/-!
## Candid servers
-/

/-- What is said to be there when it is to be created is there. -/
def IsCandid (s : Store) (e : Exchange Server) : Prop :=
  ∀ scope secret message,
    e = ⟨.server (.createSecret scope secret), Except.error (.conflict message)⟩ →
      s.HasSecret (placeOf secret.toJson).1 (placeOf secret.toJson).2

/-- An unreliable server that refuses to create a secret as a conflict only where there is one. -/
def candid (others : Store → Store → Prop) : Surroundings Server Store where
  answers s d x s' := UnreliableAnswers s d x s' ∧ s'.IsCandid ⟨d, x⟩
  drifts := others

theorem candid_serving (others : Store → Store → Prop) (stamp : Stamp) (d : Demand) (s : Store) :
    (candid others).answers s d (serving id stamp d s).1 (serving id stamp d s).2 := by
  refine ⟨unreliable_serving others stamp d s, ?_⟩
  intro scope secret message he
  have hd : d = .server (.createSecret scope secret) := congrArg Sigma.fst he
  subst hd
  exact hasSecret_perform_createSecret s scope secret

/-!
## What has been said
-/

/-- A secret was to be created, and it was said that it is there now, or was before. -/
def Settled (h : History Server) (secret : Secret) : Prop :=
  ∃ scope, Heard h (.createSecret scope secret) () ∨
    ∃ message, (⟨.server (.createSecret scope secret), Except.error (.conflict message)⟩ :
      Exchange Server) ∈ h

theorem Settled.append {h : History Server} {secret : Secret} (hs : Settled h secret)
    (more : History Server) : Settled (h ++ more) secret := by
  rcases hs with ⟨scope, hmade | ⟨message, hrefused⟩⟩
  · exact ⟨scope, Or.inl (hmade.append more)⟩
  · exact ⟨scope, Or.inr ⟨message, List.mem_append_left more hrefused⟩⟩

/-- The secrets that were said to be there are there, under the names they were asked for by. -/
structure Confirms (s : Store) (h : History Server) : Prop where
  named : ∀ scope name secret, Heard h (.getSecret scope name) (some secret) →
    secret.metadata.name.getD "" = name
  read : ∀ scope name secret, Heard h (.getSecret scope name) (some secret) →
    s.HasSecret scope name
  settled : ∀ secret, Settled h secret →
    s.HasSecret (placeOf secret.toJson).1 (placeOf secret.toJson).2

theorem confirms_nil (s : Store) : s.Confirms [] where
  named _ _ _ h := nomatch h
  read _ _ _ h := nomatch h
  settled secret h := by
    rcases h with ⟨scope, hmem | ⟨message, hmem⟩⟩
    · cases hmem
    · cases hmem

variable {s s' : Store} {h : History Server}

theorem Confirms.mono (hs : s.Confirms h) (hkeeps : s.KeepsSecrets s') : s'.Confirms h where
  named := hs.named
  read scope name secret hread := hkeeps _ _ (hs.read scope name secret hread)
  settled secret hsettled := hkeeps _ _ (hs.settled secret hsettled)

theorem Confirms.answer {others : Store → Store → Prop} {d : Demand} {x : d.Answer}
    (hs : s.Confirms h) (ha : (candid others).answers s d x s') :
    s'.Confirms (h ++ [⟨d, x⟩]) := by
  obtain ⟨hanswer, hcandid⟩ := ha
  have hold : s'.Confirms h := hs.mono hanswer.grows.keepsSecrets
  have hread {scope name : String} {secret : Secret}
      (hmem : (⟨.server (.getSecret scope name), Except.ok (some secret)⟩ : Exchange Server) ∈
        [(⟨d, x⟩ : Exchange Server)]) :
      secret.metadata.name.getD "" = name ∧ s'.HasSecret scope name := by
    cases List.mem_singleton.mp hmem
    obtain ⟨j, hj, hsecret⟩ := readOne_eq_some hanswer.tells.getSecret
    constructor
    · rw [name_of_secret hsecret, placeOf_of_find? hj]
    · exact hanswer.grows.keepsSecrets scope name ⟨j, hj⟩
  refine ⟨?_, ?_, ?_⟩
  · intro scope name secret hheard
    rcases List.mem_append.mp hheard with hbefore | hnow
    · exact hold.named scope name secret hbefore
    · exact (hread hnow).1
  · intro scope name secret hheard
    rcases List.mem_append.mp hheard with hbefore | hnow
    · exact hold.read scope name secret hbefore
    · exact (hread hnow).2
  · rintro secret ⟨scope, hmade | ⟨message, hrefused⟩⟩
    · rcases List.mem_append.mp hmade with hbefore | hnow
      · exact hold.settled secret ⟨scope, Or.inl hbefore⟩
      · cases List.mem_singleton.mp hnow
        obtain ⟨_, rfl⟩ := hanswer.of_ok rfl
        exact hasSecret_perform_createSecret s scope secret
    · rcases List.mem_append.mp hrefused with hbefore | hnow
      · exact hold.settled secret ⟨scope, Or.inr ⟨message, hbefore⟩⟩
      · exact hcandid scope secret message (List.mem_singleton.mp hnow).symm

end Store
end PointInTime
