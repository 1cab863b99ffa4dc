import PointInTime.Json.Record
import PointInTime.Instant.Rfc3339

/-!
# Metadata of objects

Two views of the metadata of an object.  `Metadata` holds what this library sets and reads: name,
namespace, labels and annotations.  `StoredMetadata` holds all that the server may keep, with the
fields that tie an object to the place it was stored in apart, so that they can be taken off when
the object is to be created elsewhere.
-/

namespace PointInTime

/-! ## Labels and annotations -/

namespace Mark

def managedBy : String := "app.kubernetes.io/managed-by"

def manager : String := "rewind"

def name : String := "app.kubernetes.io/name"

def sourceBackup : String := "rewind.dev/source-backup"

def sourceNamespace : String := "rewind.dev/source-namespace"

def clonedFrom : String := "rewind.dev/cloned-from"

/-- The annotation that another client keeps its last configuration in. -/
def lastApplied : String := "kubectl.kubernetes.io/last-applied-configuration"

end Mark

/-! ## What is set and read -/

structure Metadata where
  name : String
  /-- The namespace. -/
  scope : String := ""
  labels : Assoc String := []
  annotations : Assoc String := []
deriving DecidableEq, Repr

namespace Metadata

/-- The metadata of an object made here: it carries the labels of management. -/
def managed (name scope : String) : Metadata where
  name := name
  scope := scope
  labels := Assoc.ofList [(Mark.name, name), (Mark.managedBy, Mark.manager)]

def annotate (m : Metadata) (key value : String) : Metadata :=
  { m with annotations := m.annotations.set key value }

def toJson (m : Metadata) : Json :=
  .obj <|
    [("name", .str m.name), ("namespace", .str m.scope)] ++
      (if m.labels = [] then [] else [("labels", Json.texts m.labels)]) ++
      (if m.annotations = [] then [] else [("annotations", Json.texts m.annotations)])

def ofJson? (j : Json) : Option Metadata := do
  let r ← j.record? ["name", "namespace", "labels", "annotations"]
  let name ← Json.required Json.asString? (r "name")
  let scope ← Json.defaulted "" Json.asString? (r "namespace")
  let labels ← Json.defaulted [] (Json.mapOf? Json.asString?) (r "labels")
  let annotations ← Json.defaulted [] (Json.mapOf? Json.asString?) (r "annotations")
  return ⟨name, scope, labels, annotations⟩

end Metadata

/-! ## What the server keeps

The fields that only the server writes are not looked into, but they have to have the shape that
the server gives them; an object with any other is unreadable.
-/

inductive Shape where
  | text
  | flag
  | integer
  | moment
  | anything
  | listOf (item : Shape)
  | object (fields : List (String × Shape))

namespace Shape

def isInteger : Json → Bool
  | .num ⟨n, 0⟩ => Int64.minValue.toInt ≤ n && n ≤ Int64.maxValue.toInt
  | _ => false

def isMoment : Json → Bool
  | .str s => (Instant.ofStored? s.toList).isSome
  | _ => false

mutual

def accepts : Shape → Json → Bool
  | text, j => j.asString?.isSome
  | flag, j => j.asBool?.isSome
  | integer, j => isInteger j
  | moment, j => isMoment j
  | anything, _ => true
  | listOf item, .arr items => items.all fun j => accepts item j
  | object fields, .obj values => acceptsFields fields values
  | _, _ => false

/-- Whether the known fields among some values have their shapes; null is no value. -/
def acceptsFields : List (String × Shape) → Assoc Json → Bool
  | [], _ => true
  | (name, shape) :: rest, values =>
      (match values.find? name with
        | none => true
        | some .null => true
        | some j => accepts shape j) && acceptsFields rest values

end

end Shape

structure StoredMetadata where
  name : Option String := none
  /-- The namespace. -/
  scope : Option String := none
  generateName : Option String := none
  labels : Option (Assoc String) := none
  annotations : Option (Assoc String) := none
  /-- Identity and life cycle: what the server alone writes. -/
  identity : Assoc Json := []
deriving Repr, Inhabited

namespace StoredMetadata

def identityFields : List (String × Shape) :=
  [("uid", .text), ("resourceVersion", .text), ("creationTimestamp", .moment),
    ("deletionTimestamp", .moment), ("deletionGracePeriodSeconds", .integer),
    ("generation", .integer), ("selfLink", .text), ("finalizers", .listOf .text),
    ("ownerReferences", .listOf (.object
      [("apiVersion", .text), ("blockOwnerDeletion", .flag), ("controller", .flag),
        ("kind", .text), ("name", .text), ("uid", .text)])),
    ("managedFields", .listOf (.object
      [("apiVersion", .text), ("fieldsType", .text), ("fieldsV1", .anything),
        ("manager", .text), ("operation", .text), ("subresource", .text),
        ("time", .moment)]))]

def identityOf (fields : Assoc Json) : Assoc Json :=
  fields.filter fun (key, j) =>
    Assoc.has key identityFields && (match j with | .null => false | _ => true)

def ofJson? (j : Json) : Option StoredMetadata := do
  let fields ← j.asObject?
  if !Shape.acceptsFields identityFields fields then none
  let name ← Json.optionally Json.asString? (fields.find? "name")
  let scope ← Json.optionally Json.asString? (fields.find? "namespace")
  let generateName ← Json.optionally Json.asString? (fields.find? "generateName")
  let labels ← Json.optionally (Json.mapOf? Json.asString?) (fields.find? "labels")
  let annotations ← Json.optionally (Json.mapOf? Json.asString?) (fields.find? "annotations")
  return ⟨name, scope, generateName, labels, annotations, identityOf fields⟩

def toJson (m : StoredMetadata) : Json :=
  .obj <|
    Json.present "annotations" (m.annotations.map Json.texts) ++
      Json.present "generateName" (m.generateName.map .str) ++
      Json.present "labels" (m.labels.map Json.texts) ++
      Json.present "name" (m.name.map .str) ++
      Json.present "namespace" (m.scope.map .str) ++ m.identity

/-- Without identity and life cycle and without the configuration another client left, so that
the object can be created elsewhere. -/
def strip (m : StoredMetadata) : StoredMetadata :=
  { m with
    identity := []
    annotations := m.annotations.bind fun annotations =>
      let kept := annotations.erase Mark.lastApplied
      if kept = [] then none else some kept }

def annotate (m : StoredMetadata) (key value : String) : StoredMetadata :=
  { m with annotations := some ((m.annotations.getD []).set key value) }

end StoredMetadata
end PointInTime
