import PointInTime.Resource.Secret
import PointInTime.Proofs.Resource.Metadata

/-!
# Secrets on the way to the server and back

A secret that was read is written in the same parts, and its bytes are in the form that is accepted,
so that its copy is read as it was made.

Main statement: a copy of a secret that was read is read back with the content and the labels of
the secret.
-/

namespace PointInTime

namespace Json

/-- Bytes that were read are in the form in which they are written. -/
theorem asBytes?_str {j : Json} {bytes : String} (h : asBytes? j = some bytes) :
    asBytes? (.str bytes) = some bytes := by
  cases j with
  | str s =>
      simp only [asBytes?] at h ⊢
      split at h
      · rename_i hcanonical
        cases h
        exact if_pos hcanonical
      · cases h
  | null =>
      cases h
      rfl
  | _ => cases h

theorem mapOf?_asBytes?_texts {j : Json} {m : Assoc String} (h : mapOf? asBytes? j = some m) :
    mapOf? asBytes? (texts m) = some m := by
  cases j with
  | obj fields =>
      simp only [mapOf?, texts] at h ⊢
      induction fields generalizing m with
      | nil =>
          cases h
          rfl
      | cons entry rest ih =>
          simp only [List.mapM_cons, Option.bind_eq_bind, Option.bind_eq_some_iff,
            Option.map_eq_some_iff] at h
          rcases h with ⟨_, ⟨bytes, hbytes, rfl⟩, more, hmore, hm⟩
          cases hm
          simp only [List.map_cons, List.mapM_cons, ih hmore, asBytes?_str hbytes]
          rfl
  | _ => cases h

end Json

namespace Secret

/-- The parts of a secret that was read. -/
theorem data_of_ofJson? {j : Json} {s : Secret} (h : ofJson? j = some s) :
    Json.optionally (Json.mapOf? Json.asBytes?) (s.data.map Json.texts) = some s.data := by
  cases j with
  | obj fields =>
      unfold ofJson? at h
      simp only [Json.asObject?, Option.bind_eq_bind, Option.bind_some] at h
      split at h
      · cases h
      · simp only [Option.bind_eq_some_iff] at h
        rcases h with ⟨_, _, data, hdata, _, _, _, _, _, _, hs⟩
        cases hs
        cases data with
        | none => rfl
        | some m =>
            cases hslot : Assoc.find? "data" fields with
            | none =>
                rw [hslot] at hdata
                cases hdata
            | some slot =>
                rw [hslot] at hdata
                rcases Json.optionally_some_cases hdata with ⟨_, hnone⟩ | ⟨m', hm, hsome⟩
                · cases hnone
                · cases hsome
                  exact congrArg (Option.map some) (Json.mapOf?_asBytes?_texts hm)
  | _ => cases h

theorem ofJson?_toJson {s : Secret} (hmetadata : s.metadata.identity = [])
    (hdata : Json.optionally (Json.mapOf? Json.asBytes?) (s.data.map Json.texts) = some s.data) :
    ofJson? s.toJson = some s := by
  have hread : Json.optionally StoredMetadata.ofJson? (some s.metadata.toJson) =
      some (some s.metadata) :=
    congrArg (Option.map some) (StoredMetadata.ofJson?_toJson hmetadata)
  have hflag : Json.optionally Json.asBool? (s.immutable.map .bool) = some s.immutable := by
    cases s.immutable <;> rfl
  unfold ofJson? toJson
  simp [Json.asObject?, Json.isCore, Json.asString?, Assoc.find?_append, Assoc.find?,
    Json.find?_present, hread, hdata, hflag, Json.optionally_text, Json.optionally_texts]

theorem ofJson?_copyTo {j : Json} {s : Secret} (h : ofJson? j = some s) (source target : String) :
    ofJson? (s.copyTo source target).toJson = some (s.copyTo source target) := by
  have hdata := data_of_ofJson? h
  exact ofJson?_toJson rfl hdata

end Secret
end PointInTime
