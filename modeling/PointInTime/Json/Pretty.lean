import PointInTime.Json.Basic

/-!
# JSON texts

A value is written over several lines, each level indented by two blanks.  An empty list or object
stays on its line.
-/

namespace PointInTime
namespace Json

/-! ## Texts -/

def escapeChar (c : Char) : List Char :=
  match c with
  | '"' => ['\\', '"']
  | '\\' => ['\\', '\\']
  | '\n' => ['\\', 'n']
  | '\r' => ['\\', 'r']
  | '\t' => ['\\', 't']
  | '\x08' => ['\\', 'b']
  | '\x0c' => ['\\', 'f']
  | c =>
      if c.toNat < 0x20 then
        ['\\', 'u', '0', '0', Nat.digitChar (c.toNat / 16), Nat.digitChar (c.toNat % 16)]
      else [c]

def quoted (s : String) : String :=
  String.ofList ('"' :: s.toList.flatMap escapeChar ++ ['"'])

/-! ## Numbers -/

/-- The digits of a number with a point before the last `scale` of them. -/
def Number.digits (n : Number) : List Char :=
  let ds := Nat.toDigits 10 n.mantissa.natAbs
  if n.scale = 0 then ds
  else
    let ds := List.replicate (n.scale + 1 - ds.length) '0' ++ ds
    ds.take (ds.length - n.scale) ++ '.' :: ds.drop (ds.length - n.scale)

def Number.text (n : Number) : String :=
  String.ofList (if n.mantissa < 0 then '-' :: n.digits else n.digits)

/-! ## Layout -/

def newLine (level : Nat) : String :=
  String.ofList ('\n' :: List.replicate (2 * level) ' ')

mutual

def prettyAt (level : Nat) : Json → String
  | .null => "null"
  | .bool true => "true"
  | .bool false => "false"
  | .num n => n.text
  | .str s => quoted s
  | .arr [] => "[]"
  | .arr (item :: items) =>
      "[" ++ newLine (level + 1) ++ prettyAt (level + 1) item ++ prettyItems (level + 1) items ++
        newLine level ++ "]"
  | .obj [] => "\x7b\x7d"
  | .obj ((key, value) :: fields) =>
      "\x7b" ++ newLine (level + 1) ++ quoted key ++ ": " ++ prettyAt (level + 1) value ++
        prettyFields (level + 1) fields ++ newLine level ++ "\x7d"

def prettyItems (level : Nat) : List Json → String
  | [] => ""
  | item :: items => "," ++ newLine level ++ prettyAt level item ++ prettyItems level items

def prettyFields (level : Nat) : List (String × Json) → String
  | [] => ""
  | (key, value) :: fields =>
      "," ++ newLine level ++ quoted key ++ ": " ++ prettyAt level value ++
        prettyFields level fields

end

def pretty (j : Json) : String :=
  prettyAt 0 j

end Json
end PointInTime
