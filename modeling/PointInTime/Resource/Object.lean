import PointInTime.Resource.Kind
import PointInTime.Resource.Metadata

/-!
# Stored objects

An object of the server with its metadata read and everything else left as it came.  API version
and kind count only as a pair; where one of them is missing or no text, the object has neither.
-/

namespace PointInTime

structure Object where
  types : Option (String × String) := none
  metadata : StoredMetadata := {}
  data : Assoc Json := []
deriving Repr, Inhabited

namespace Object

/-- API version and kind, and the fields that are left after looking for them. -/
def splitTypes (fields : Assoc Json) : Option (String × String) × Assoc Json :=
  match fields.find? "apiVersion", fields.find? "kind" with
  | some (.str version), some (.str kind) =>
      (some (version, kind), (fields.erase "apiVersion").erase "kind")
  | some (.str _), _ => (none, (fields.erase "apiVersion").erase "kind")
  | some _, _ => (none, fields.erase "apiVersion")
  | none, _ => (none, fields.erase "kind")

def ofJson? (j : Json) : Option Object := do
  let fields ← j.asObject?
  let metadata ← Json.defaulted {} StoredMetadata.ofJson? (fields.find? "metadata")
  let (types, data) := splitTypes (fields.erase "metadata")
  return ⟨types, metadata, data⟩

def toJson (o : Object) : Json :=
  .obj <|
    (match o.types with
      | some (version, kind) => [("apiVersion", .str version), ("kind", .str kind)]
      | none => []) ++
    ("metadata", o.metadata.toJson) :: o.data

/-- The name of an object: its own, or the stem the server makes names from, or none. -/
def name (o : Object) : String :=
  match o.metadata.name with
  | some name => name
  | none => o.metadata.generateName.getD ""

end Object
end PointInTime
