import PointInTime.Json.Pretty
import PointInTime.Yaml.Scalar

/-!
# YAML documents

A value is written as a block: a field on each line, what it holds indented by two blanks.  A list
stands under its field without being indented, and its items begin with a dash.
-/

namespace PointInTime
namespace Yaml

def margin (indent : Nat) : String :=
  String.ofList (List.replicate indent ' ')

/-- A value that holds no other, as it stands on a line whose further lines are indented. -/
def leaf (indent : Nat) : Json → String
  | .null => "null"
  | .bool true => "true"
  | .bool false => "false"
  | .num n => n.text
  | .str s => scalar indent s
  | .arr _ => "[]"
  | .obj _ => "\x7b\x7d"

mutual

def fieldLines (indent : Nat) : Json → String
  | .arr (item :: items) => "\n" ++ itemLines indent (item :: items)
  | .obj (field :: fields) =>
      "\n" ++ margin (indent + 2) ++ mappingLines (indent + 2) (field :: fields)
  | j => " " ++ closed (leaf (indent + 2) j)

/-- The lines of a value that begins where its line stands, its further lines at an
indentation. -/
def lines (indent : Nat) : Json → String
  | .arr (item :: items) =>
      "- " ++ lines (indent + 2) item ++ itemLines indent items
  | .obj (field :: fields) => mappingLines indent (field :: fields)
  | j => closed (leaf indent j)

def itemLines (indent : Nat) : List Json → String
  | [] => ""
  | item :: items => margin indent ++ "- " ++ lines (indent + 2) item ++ itemLines indent items

/-- The lines of the fields of a mapping, of which the first begins where its line stands. -/
def mappingLines (indent : Nat) : List (String × Json) → String
  | [] => ""
  | (key, j) :: fields =>
      scalar (indent + 2) key ++ ":" ++ fieldLines indent j ++
        (match fields with
          | [] => ""
          | _ :: _ => margin indent ++ mappingLines indent fields)

end

def document (j : Json) : String :=
  lines 0 j

end Yaml
end PointInTime
