import PointInTime.Json.Draft
import PointInTime.Json.Record

/-!
# Request bodies

A body is a record in JSON, an object of named fields or an array of fields in order.  It is read
in the order of its text, and what is found first decides between a body that is no JSON and one
that has not the shape of the record.
-/

namespace PointInTime
namespace Http

inductive BodyFault where
  | malformed
  | misshapen
deriving DecidableEq, Repr

inductive FieldType where
  | text
  | optionalText
  | flag
deriving DecidableEq, Repr

abbrev Fields := List (String × FieldType)

namespace Body

open Json (Draft)

/-- A value that is not of the type of its field; texts and numbers are read to their ends before
they are refused. -/
def refuse : Draft → BodyFault
  | .fault => .malformed
  | .number false => .malformed
  | .text none => .malformed
  | _ => .misshapen

def value : FieldType → Draft → Except BodyFault Json
  | .text, .text (some s) => .ok (.str s)
  | .optionalText, .text (some s) => .ok (.str s)
  | .optionalText, .null => .ok .null
  | .flag, .bool b => .ok (.bool b)
  | _, d => .error (refuse d)

/-- The fields of an object in the order of the text; a field that is not known is passed over, and
one that comes twice is refused before its value. -/
def fromFields (known : Fields) (found : Assoc Json) :
    List (Option String × Draft) → Except BodyFault (Assoc Json)
  | [] => .ok found
  | (none, _) :: _ => .error .malformed
  | (some key, d) :: rest =>
      match Assoc.find? key known with
      | none => if d.isWhole then fromFields known found rest else .error .malformed
      | some type =>
          if found.has key then .error .misshapen
          else do
            let v ← value type d
            fromFields known (found ++ [(key, v)]) rest

def fromItems : Fields → Assoc Json → List Draft → Except BodyFault (Assoc Json)
  | _, found, [] => .ok found
  | [], _, _ :: _ => .error .malformed
  | (key, type) :: known, found, d :: rest => do
      let v ← value type d
      fromItems known (found ++ [(key, v)]) rest

def fields (known : Fields) : Draft → Except BodyFault (Assoc Json)
  | .object given complete => do
      let found ← fromFields known [] given
      if complete then return found else throw .malformed
  | .list items complete => do
      let found ← fromItems known [] items
      if complete then return found else throw .malformed
  | d => .error (refuse d)

/-- The record in a body, out of its fields; nothing may follow it. -/
def read {α : Type} (known : Fields) (ofRecord? : Json.Record → Option α) (text : String) :
    Except BodyFault α := do
  let (draft, ended) := Draft.read text
  let found ← fields known draft
  match ofRecord? fun key => found.find? key with
  | none => throw .misshapen
  | some a => if ended then return a else throw .malformed

end Body
end Http
end PointInTime
