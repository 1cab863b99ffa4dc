import PointInTime.Proofs.Resource.Metadata
import PointInTime.Proofs.Server.Answers

/-!
# The configuration at a place

What lies at a place of the configurations is what was applied there last.  Applying a configuration
and reading it gives the texts that were applied.
-/

namespace PointInTime

namespace Store

def configAt (scope name : String) (s : Store) : Option Json :=
  find? scope name s.configs

theorem configAt_of_eq {s s' : Store} (h : s'.configs = s.configs) (scope name : String) :
    s'.configAt scope name = s.configAt scope name := by
  rw [configAt, h, configAt]

/-!
## Putting
-/

theorem find?_replace {p : Json → Bool} {object : Json} (hobject : p object = true)
    {objects : List Json} (hany : objects.any p = true) :
    (objects.map fun j => if p j then object else j).find? p = some object := by
  induction objects with
  | nil => cases hany
  | cons j rest ih =>
      cases hj : p j with
      | true => simp [hj, hobject]
      | false =>
          have hrest : rest.any p = true := by
            simpa [hj] using hany
          simpa [hj] using ih hrest

theorem find?_put_self (object : Json) (objects : List Json) :
    find? (metadataText "namespace" object) (metadataText "name" object) (put object objects) =
      some object := by
  have hobject : isAt (metadataText "namespace" object) (metadataText "name" object) object =
      true := by
    simp [isAt]
  unfold find? put
  by_cases hany : objects.any
      (isAt (metadataText "namespace" object) (metadataText "name" object)) = true
  · simp only [hany, if_true]
    exact find?_replace hobject hany
  · simp only [hany, Bool.false_eq_true, if_false]
    have hnone : objects.find?
        (isAt (metadataText "namespace" object) (metadataText "name" object)) = none := by
      rw [List.find?_eq_none]
      intro j hj hat
      exact hany (List.any_eq_true.mpr ⟨j, hj, hat⟩)
    rw [List.find?_append, hnone, Option.none_or]
    simp [hobject]

theorem configAt_perform_applyConfig (scope name manager : String) (data : Assoc String)
    (s : Store) :
    (s.perform (.applyConfig scope name manager data)).2.configAt scope name =
      some (ConfigMap.toJson scope name data) :=
  find?_put_self (ConfigMap.toJson scope name data) s.configs

end Store

/-!
## Reading
-/

theorem ConfigMap.dataOfJson?_toJson (scope name : String) (data : Assoc String) :
    dataOfJson? (toJson scope name data) = some data := by
  have hmetadata : Json.optionally StoredMetadata.ofJson? (some (.obj
      [("name", .str name), ("namespace", .str scope),
        ("labels", Json.texts [(Mark.managedBy, Mark.manager)])])) =
      some (some (Metadata.stored ⟨name, scope, [(Mark.managedBy, Mark.manager)], []⟩)) := by
    show (StoredMetadata.ofJson? (Metadata.toJson ⟨name, scope, [(_, _)], []⟩)).map some = _
    rw [Metadata.ofJson?_toJson_eq_stored]
    rfl
  have hdata : Json.optionally (Json.mapOf? Json.asString?) (some (Json.texts data)) =
      some (some data) := Json.optionally_texts (some data)
  have habsent {α : Type} (read? : Json → Option α) : Json.optionally read? none = some none := rfl
  simp [dataOfJson?, toJson, Json.asObject?, Json.isCore, Json.asString?, Assoc.find?, habsent,
    hmetadata, hdata]

theorem Store.perform_getConfig {scope name : String} {data : Assoc String} {s : Store}
    (hs : s.configAt scope name = some (ConfigMap.toJson scope name data)) :
    (s.perform (.getConfig scope name)).1 = Except.ok (some data) := by
  have hread : readOne ConfigMap.dataOfJson? (s.configAt scope name) = Except.ok (some data) := by
    rw [hs, readOne, ConfigMap.dataOfJson?_toJson]
  exact hread

theorem Store.perform_getConfig_ok {scope name : String} {data : Option (Assoc String)} {s : Store}
    (h : (s.perform (.getConfig scope name)).1 = Except.ok data) :
    data = (s.configAt scope name).bind ConfigMap.dataOfJson? := by
  have hread : readOne ConfigMap.dataOfJson? (s.configAt scope name) = Except.ok data := h
  cases hj : s.configAt scope name with
  | none =>
      rw [hj] at hread
      cases hread
      rfl
  | some j =>
      rw [hj, readOne] at hread
      split at hread
      · rename_i texts htexts
        cases hread
        exact htexts.symm
      · cases hread

end PointInTime
