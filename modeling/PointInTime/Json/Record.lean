import PointInTime.Json.Basic

/-!
# Reading records

A record is read from an object by the names of its fields, or from an array by their order.  Names
it does not know are ignored, a name given twice makes it unreadable.  A field is required, or has
a default for its absence, or is optional, and only then may it be null.
-/

namespace PointInTime
namespace Json

abbrev Record := String → Option Json

/-- The fields of a record by name, out of an object, or by position, out of an array. -/
def record? (names : List String) : Json → Option Record
  | .obj fields =>
      if names.all fun name => (fields.filter fun (k, _) => k = name).length ≤ 1 then
        some fun name => Assoc.find? name fields
      else none
  | .arr items =>
      if items.length ≤ names.length then
        some fun name => Assoc.find? name (names.zip items)
      else none
  | _ => none

def required {α : Type} (read? : Json → Option α) (slot : Option Json) : Option α :=
  slot.bind read?

def defaulted {α : Type} (default : α) (read? : Json → Option α) (slot : Option Json) : Option α :=
  match slot with
  | some j => read? j
  | none => some default

/-- A field that may be absent or null. -/
def optionally {α : Type} (read? : Json → Option α) (slot : Option Json) : Option (Option α) :=
  match slot with
  | none => some none
  | some .null => some none
  | some j => (read? j).map some

def listOf? {α : Type} (read? : Json → Option α) : Json → Option (List α)
  | .arr items => items.mapM read?
  | _ => none

def mapOf? {α : Type} (read? : Json → Option α) : Json → Option (Assoc α)
  | .obj fields => fields.mapM fun (k, j) => (read? j).map fun v => (k, v)
  | _ => none

end Json
end PointInTime
