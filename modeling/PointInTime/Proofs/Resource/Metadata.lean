import PointInTime.Resource.Metadata
import PointInTime.Proofs.Json.Record

/-!
# Metadata on the way to the server and back

Metadata that is set here says nothing of identity, so that the server reads it as it was set and
gives it back in the shape of its own.  What the server keeps is read as it is written, as long as
it says nothing of identity either.
-/

namespace PointInTime

namespace Metadata

def stored (m : Metadata) : StoredMetadata where
  name := some m.name
  scope := some m.scope
  labels := if m.labels = [] then none else some m.labels
  annotations := if m.annotations = [] then none else some m.annotations

theorem identityOf_eq_nil {fields : Assoc Json} {names : List String}
    (hkeys : (fields.map Prod.fst).Sublist names)
    (hnames : ∀ name ∈ names, Assoc.has name StoredMetadata.identityFields = false) :
    StoredMetadata.identityOf fields = [] := by
  unfold StoredMetadata.identityOf
  rw [List.filter_eq_nil_iff]
  intro entry hentry
  have hname := hnames entry.1 (hkeys.subset (List.mem_map_of_mem hentry))
  simp [hname]

theorem optionally_ite_texts (m : Assoc String) :
    Json.optionally (Json.mapOf? Json.asString?) (if m = [] then none else some (Json.texts m)) =
      some (if m = [] then none else some m) := by
  by_cases hm : m = []
  · simp [hm, Json.optionally]
  · simpa [hm] using Json.optionally_texts (some m)

theorem ofJson?_toJson_eq_stored (m : Metadata) :
    StoredMetadata.ofJson? m.toJson = some m.stored := by
  have hkeys : (([("name", Json.str m.name), ("namespace", Json.str m.scope)] ++
      Json.present "labels" (if m.labels = [] then none else some (Json.texts m.labels)) ++
      Json.present "annotations"
        (if m.annotations = [] then none else some (Json.texts m.annotations))).map
      Prod.fst).Sublist ["name", "namespace", "labels", "annotations"] := by
    simp only [List.map_append, List.append_assoc]
    exact (List.Sublist.refl _).append
      ((Json.keys_present_sublist _ _).append (Json.keys_present_sublist _ _))
  have hidentity := identityOf_eq_nil hkeys (by decide)
  have hname (t : String) : Json.optionally Json.asString? (some (.str t)) = some (some t) := rfl
  have hstem : Json.optionally Json.asString? none = some none := rfl
  simp only [List.cons_append, List.nil_append] at hidentity
  unfold StoredMetadata.ofJson? toJson
  simp only [Json.ite_eq_present, Json.asObject?]
  simp [Shape.acceptsFields, StoredMetadata.identityFields, Assoc.find?_append, Assoc.find?,
    Json.find?_present, optionally_ite_texts, stored, hidentity, hname, hstem]

theorem ofJson?_toJson_stored (m : Metadata) : ofJson? m.stored.toJson = some m := by
  have hkeys : ((Json.present "annotations" (m.stored.annotations.map Json.texts) ++
      Json.present "generateName" (m.stored.generateName.map .str) ++
      Json.present "labels" (m.stored.labels.map Json.texts) ++
      Json.present "name" (m.stored.name.map .str) ++
      Json.present "namespace" (m.stored.scope.map .str) ++ m.stored.identity).map
      Prod.fst).Nodup := by
    refine List.Nodup.sublist ?_
      (by decide : ["annotations", "generateName", "labels", "name", "namespace"].Nodup)
    simp only [List.map_append, List.append_assoc, stored, List.append_nil]
    exact (Json.keys_present_sublist _ _).append ((Json.keys_present_sublist _ _).append
      ((Json.keys_present_sublist _ _).append
        ((Json.keys_present_sublist _ _).append (Json.keys_present_sublist _ _))))
  unfold ofJson? StoredMetadata.toJson
  rw [Json.record?_obj hkeys]
  obtain ⟨name, scope, labels, annotations⟩ := m
  by_cases hl : labels = [] <;> by_cases ha : annotations = [] <;>
    simp [hl, ha, stored, Assoc.find?_append, Json.find?_present, Json.required, Json.defaulted,
      Json.asString?, Json.mapOf?_texts]

end Metadata

namespace StoredMetadata

/-- Metadata that says nothing of identity is read as it was written. -/
theorem ofJson?_toJson {m : StoredMetadata} (hm : m.identity = []) :
    ofJson? m.toJson = some m := by
  have hkeys : ((Json.present "annotations" (m.annotations.map Json.texts) ++
      Json.present "generateName" (m.generateName.map .str) ++
      Json.present "labels" (m.labels.map Json.texts) ++
      Json.present "name" (m.name.map .str) ++
      Json.present "namespace" (m.scope.map .str) ++ []).map Prod.fst).Sublist
        ["annotations", "generateName", "labels", "name", "namespace"] := by
    simp only [List.map_append, List.append_assoc, List.append_nil]
    exact (Json.keys_present_sublist _ _).append ((Json.keys_present_sublist _ _).append
      ((Json.keys_present_sublist _ _).append
        ((Json.keys_present_sublist _ _).append (Json.keys_present_sublist _ _))))
  have hidentity := Metadata.identityOf_eq_nil hkeys (by decide)
  cases m
  cases hm
  unfold ofJson? toJson
  simp only [Json.asObject?, Option.bind_eq_bind, Option.bind_some, hidentity]
  simp [Shape.acceptsFields, identityFields, Assoc.find?_append, Json.find?_present,
    Json.optionally_text, Json.optionally_texts]

end StoredMetadata

end PointInTime
