import PointInTime.Resource.Object
import PointInTime.Text.Base64

/-!
# Secrets and configuration

Secrets are copied between namespaces with their content untouched.  A configuration is read and
written as a list of texts.
-/

namespace PointInTime

/-! ## Core objects -/

/-- Whether a core object names the API version and the kind that are expected, or neither. -/
def Json.isCore (kind : String) (fields : Assoc Json) : Bool :=
  (match fields.find? "apiVersion" with
    | some j => j.asString? == some "v1"
    | none => true) &&
  (match fields.find? "kind" with
    | some j => j.asString? == some kind
    | none => true)

/-- Bytes in base64; null stands for none. -/
def Json.asBytes? : Json → Option String
  | .str s => if Text.Base64.isCanonical s.toList then some s else none
  | .null => some ""
  | _ => none

/-! ## Secrets -/

structure Secret where
  metadata : StoredMetadata := {}
  data : Option (Assoc String) := none
  stringData : Option (Assoc String) := none
  immutable : Option Bool := none
  type : Option String := none
deriving Repr, Inhabited

namespace Secret

def ofJson? (j : Json) : Option Secret := do
  let fields ← j.asObject?
  if !Json.isCore "Secret" fields then none
  let metadata ← Json.optionally StoredMetadata.ofJson? (fields.find? "metadata")
  let data ← Json.optionally (Json.mapOf? Json.asBytes?) (fields.find? "data")
  let stringData ← Json.optionally (Json.mapOf? Json.asString?) (fields.find? "stringData")
  let immutable ← Json.optionally Json.asBool? (fields.find? "immutable")
  let type ← Json.optionally Json.asString? (fields.find? "type")
  return ⟨metadata.getD {}, data, stringData, immutable, type⟩

def toJson (s : Secret) : Json :=
  .obj <|
    [("apiVersion", .str "v1"), ("kind", .str "Secret")] ++
      Json.present "data" (s.data.map Json.texts) ++
      Json.present "immutable" (s.immutable.map .bool) ++
      [("metadata", s.metadata.toJson)] ++
      Json.present "stringData" (s.stringData.map Json.texts) ++
      Json.present "type" (s.type.map .str)

/-- The copy of a secret for another namespace: the content as it was, the metadata without
identity, and a note of where it came from. -/
def copyTo (s : Secret) (source target : String) : Secret :=
  { s with
    metadata :=
      ({ s.metadata.strip with scope := some target }).annotate Mark.sourceNamespace source }

end Secret

/-! ## Configuration -/

namespace ConfigMap

def dataOfJson? (j : Json) : Option (Assoc String) := do
  let fields ← j.asObject?
  if !Json.isCore "ConfigMap" fields then none
  let _ ← Json.optionally StoredMetadata.ofJson? (fields.find? "metadata")
  let _ ← Json.optionally Json.asBool? (fields.find? "immutable")
  let _ ← Json.optionally (Json.mapOf? Json.asBytes?) (fields.find? "binaryData")
  let data ← Json.optionally (Json.mapOf? Json.asString?) (fields.find? "data")
  return data.getD []

def toJson (scope name : String) (data : Assoc String) : Json :=
  .obj
    [("apiVersion", .str "v1"), ("kind", .str "ConfigMap"),
      ("metadata", .obj
        [("name", .str name), ("namespace", .str scope),
          ("labels", Json.texts [(Mark.managedBy, Mark.manager)])]),
      ("data", Json.texts data)]

end ConfigMap

/-! ## Namespaces -/

namespace Namespace

def toJson (name : String) : Json :=
  .obj
    [("apiVersion", .str "v1"), ("kind", .str "Namespace"),
      ("metadata", .obj
        [("name", .str name), ("labels", Json.texts [(Mark.managedBy, Mark.manager)])])]

end Namespace
end PointInTime
