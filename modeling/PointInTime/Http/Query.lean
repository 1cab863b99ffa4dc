import PointInTime.Text.Parts
import PointInTime.Text.Utf8

/-!
# Queries

The query of an address is a list of names and values with percent signs for what cannot stand
there, and plus signs for blanks.  A field that is asked for has to be given once.
-/

namespace PointInTime
namespace Http
namespace Query

/-! ## Decoding -/

def hexValue? (b : UInt8) : Option UInt8 :=
  if 48 ≤ b && b ≤ 57 then some (b - 48)
  else if 97 ≤ b && b ≤ 102 then some (b - 87)
  else if 65 ≤ b && b ≤ 70 then some (b - 55)
  else none

/-- The bytes that a part of a query stands for; a percent sign without two digits after it stands
for itself. -/
def unescape : List UInt8 → List UInt8
  | 37 :: a :: b :: rest =>
      match hexValue? a, hexValue? b with
      | some high, some low => (high * 16 + low) :: unescape rest
      | _, _ => 37 :: unescape (a :: b :: rest)
  | 43 :: rest => 32 :: unescape rest
  | b :: rest => b :: unescape rest
  | [] => []

def decode (bytes : List UInt8) : String :=
  Text.Utf8.decodeLossy (unescape bytes)

/-- A name and a value; without an equals sign the value is empty. -/
def pair (part : List UInt8) : String × String :=
  (decode (part.takeWhile (· ≠ 61)), decode ((part.dropWhile (· ≠ 61)).drop 1))

def pairs (query : String) : List (String × String) :=
  ((Text.parts 38 query.toUTF8.toList).filter (· ≠ [])).map pair

/-! ## Writing -/

def isPlain (b : UInt8) : Bool :=
  (Char.ofNat b.toNat).isAlphanum || b == 42 || b == 45 || b == 46 || b == 95

def escapeByte (b : UInt8) : List Char :=
  if isPlain b then [Char.ofNat b.toNat]
  else if b = 32 then ['+']
  else ['%', (Nat.digitChar (b.toNat / 16)).toUpper, (Nat.digitChar (b.toNat % 16)).toUpper]

def encode (s : String) : String :=
  String.ofList (s.toUTF8.toList.flatMap escapeByte)

def render (pairs : List (String × String)) : String :=
  "&".intercalate (pairs.map fun (key, value) => encode key ++ "=" ++ encode value)

/-! ## Fields -/

def valuesOf (name : String) (pairs : List (String × String)) : List String :=
  pairs.filterMap fun (key, value) => if key = name then some value else none

/-- A field that may be given once. -/
def optional (name : String) (query : String) : Option (Option String) :=
  match valuesOf name (pairs query) with
  | [] => some none
  | [value] => some (some value)
  | _ => none

/-- A field that has to be given once. -/
def required (name : String) (query : String) : Option String :=
  (optional name query).bind id

end Query
end Http
end PointInTime
