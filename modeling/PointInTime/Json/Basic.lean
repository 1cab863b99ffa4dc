import PointInTime.Assoc

/-!
# JSON values

Objects keep their fields in the order given.  Values that come from the server have them in the
order of the keys, and changing a field keeps that order.
-/

namespace PointInTime

/-- A decimal number, `mantissa` divided by ten to the power of `scale`; scale 0 is an integer. -/
structure Json.Number where
  mantissa : Int
  scale : Nat
deriving DecidableEq, Repr

inductive Json where
  | null
  | bool (b : Bool)
  | num (n : Json.Number)
  | str (s : String)
  | arr (items : List Json)
  | obj (fields : List (String × Json))
deriving Repr, Inhabited

namespace Json

/-! ## Reading parts -/

def int (n : Int) : Json := .num ⟨n, 0⟩

def nat (n : Nat) : Json := .num ⟨n, 0⟩

def asString? : Json → Option String
  | .str s => some s
  | _ => none

def asBool? : Json → Option Bool
  | .bool b => some b
  | _ => none

def asObject? : Json → Option (Assoc Json)
  | .obj fields => some fields
  | _ => none

def asNonEmpty? (j : Json) : Option String :=
  j.asString?.filter (· ≠ "")

def field? (key : String) : Json → Option Json
  | .obj fields => Assoc.find? key fields
  | _ => none

def path? : List String → Json → Option Json
  | [], j => some j
  | key :: keys, j => (j.field? key).bind (path? keys)

/-! ## Changing parts -/

def mapFields (f : Assoc Json → Assoc Json) : Json → Json
  | .obj fields => .obj (f fields)
  | j => j

def mapFieldsAt : List String → (Assoc Json → Assoc Json) → Json → Json
  | [], f, j => j.mapFields f
  | key :: keys, f, j => j.mapFields (Assoc.modify key (mapFieldsAt keys f))

/-! ## Building objects -/

def optional (s : Option String) : Json :=
  match s with
  | some s => .str s
  | none => .null

/-- A field that is left out when it has no value. -/
def present (key : String) (value : Option Json) : List (String × Json) :=
  match value with
  | some v => [(key, v)]
  | none => []

def texts (m : Assoc String) : Json :=
  .obj (m.map fun (k, v) => (k, .str v))

end Json
end PointInTime
