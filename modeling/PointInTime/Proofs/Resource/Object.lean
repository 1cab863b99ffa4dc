import PointInTime.Resource.Object
import PointInTime.Proofs.Resource.Metadata

/-!
# Objects on the way to the server and back

Whatever kind of object is made here, it is sent in the same parts.  The server takes them apart and
puts them together again; only the metadata comes back in a shape of its own.
-/

namespace PointInTime
namespace Object

/-- The parts of an object, of which the status may be missing. -/
def parts (apiVersion kind : String) (metadata spec : Json) (status : Option Json) : Assoc Json :=
  [("apiVersion", .str apiVersion), ("kind", .str kind), ("metadata", metadata), ("spec", spec)] ++
    Json.present "status" status

variable (apiVersion kind : String) (metadata : Metadata) (spec : Json) (status : Option Json)

theorem exists_object_of_parts :
    ∃ o, ofJson? (.obj (parts apiVersion kind metadata.toJson spec status)) = some o ∧
      o.toJson = .obj (parts apiVersion kind metadata.stored.toJson spec status) := by
  refine ⟨⟨some (apiVersion, kind), metadata.stored,
    ("spec", spec) :: Json.present "status" status⟩, ?_, rfl⟩
  unfold ofJson? parts
  cases status <;>
    simp [Json.asObject?, Json.defaulted, Assoc.find?, Assoc.erase, splitTypes, Json.present,
      Metadata.ofJson?_toJson_eq_stored]

theorem record?_parts (names : List String) (stored : Json) :
    Json.record? names (.obj (parts apiVersion kind stored spec status)) =
      some fun name => Assoc.find? name (parts apiVersion kind stored spec status) := by
  apply Json.record?_obj
  refine List.Nodup.sublist ?_
    (by decide : ["apiVersion", "kind", "metadata", "spec", "status"].Nodup)
  exact ((((Json.keys_present_sublist _ _).cons_cons _).cons_cons _).cons_cons _).cons_cons _

end Object
end PointInTime
