import PointInTime.Text.Double

/-!
# Texts in YAML

A text is written plainly unless a reader would take it for something else: for null, a truth value
or a number, or for structure.  Then it stands in single quotes, or in double quotes with escapes
if it holds what cannot be shown.  A text of several lines is written as a block of lines.
-/

namespace PointInTime
namespace Yaml

open Text

/-! ## Texts that read as something else -/

def reserved : List String :=
  ["", "null", "Null", "NULL", "~", "true", "True", "TRUE", "false", "False", "FALSE"]

def after? (start s : List Char) : Option (List Char) :=
  if start.isPrefixOf s then some (s.drop start.length) else none

def numberOf (base : Nat) (s : List Char) : Nat :=
  s.foldl (fun n c => n * base + (if c.isDigit then c.toNat - 48 else c.toLower.toNat - 87)) 0

/-- The bound of the numbers in another base: that of an integer of 128 bits. -/
def basedBound (s : List Char) : Nat :=
  if s.head? = some '-' then Nat.pow 2 127 + 1 else Nat.pow 2 128

def isBased (s : List Char) : Bool :=
  [(16, "0x"), (8, "0o"), (2, "0b")].any fun (base, mark) =>
    (after? mark.toList (dropSign s)).any fun ds =>
      areDigits base ds && numberOf base ds < basedBound s

/-- Whether a text has a zero in front of further digits, which makes it no number but close to
one. -/
def isZeroPadded (s : List Char) : Bool :=
  match dropSign s with
  | '0' :: rest => rest ≠ [] && rest.all Char.isDigit
  | _ => false

def isSpecial (s : List Char) : Bool :=
  [".inf", ".Inf", ".INF", "+.inf", "+.Inf", "+.INF", "-.inf", "-.Inf", "-.INF", ".nan", ".NaN",
    ".NAN"].contains (String.ofList s)

def isDecimal (s : List Char) : Bool :=
  (decimal? (dropSign s)).any fun (n, e) => isFinite n e

def isAmbiguous (s : List Char) : Bool :=
  reserved.contains (String.ofList s) || isBased s || isZeroPadded s || isSpecial s ||
    isDecimal s

/-! ## Texts that read as structure -/

def isBreak (c : Char) : Bool :=
  c == '\n' || c == '\r' || c == '\u0085' || c == '\u2028' || c == '\u2029'

def isPrintable (c : Char) : Bool :=
  let n := c.toNat
  n == 0x0A || (0x20 ≤ n && n ≤ 0x7E) || (0xA0 ≤ n && n ≤ 0xD7FF) ||
    (0xE000 ≤ n && n ≤ 0xFFFD && n != 0xFEFF) || 0x10000 ≤ n

def endsWord (c : Option Char) : Bool :=
  match c with
  | none => true
  | some c => c == ' ' || c == '\t' || isBreak c

def opens (c : Char) (next : Option Char) : Bool :=
  "#,[]\x7b\x7d&*!|>'\"%@".toList.contains c || c.toNat == 0x60 ||
    ((c == '?' || c == ':' || c == '-') && endsWord next)

def hasStructure (last : Char) : List Char → Bool
  | [] => false
  | c :: rest =>
      (c == ':' && endsWord rest.head?) || (c == '#' && endsWord (some last)) ||
        hasStructure c rest

def isStructural (s : List Char) : Bool :=
  match s with
  | [] => false
  | c :: rest =>
      ['-', '-', '-'].isPrefixOf s || ['.', '.', '.'].isPrefixOf s || opens c rest.head? ||
        hasStructure c rest

def breaksAfterBlank : List Char → Bool
  | ' ' :: c :: rest => isBreak c || breaksAfterBlank (c :: rest)
  | _ :: rest => breaksAfterBlank rest
  | [] => false

def blankAfterBreak : List Char → Bool
  | b :: ' ' :: rest => isBreak b || blankAfterBreak (' ' :: rest)
  | _ :: rest => blankAfterBreak rest
  | [] => false

def needsEscapes (s : List Char) : Bool :=
  breaksAfterBlank s || s.any fun c => !isPrintable c

def canBePlain (s : List Char) : Bool :=
  !isStructural s && !needsEscapes s && !s.any isBreak && s.head? != some ' ' &&
    s.getLast? != some ' '

/-! ## Styles -/

inductive Style where
  | plain
  | single
  | double
  | literal
deriving DecidableEq, Repr

/-- The plainest style that keeps a text. -/
def styleOf (s : List Char) : Style :=
  if s.contains '\n' then
    if needsEscapes s || s.getLast? == some ' ' then .double else .literal
  else if needsEscapes s || blankAfterBreak s then .double
  else if isAmbiguous s || !canBePlain s then .single
  else .plain

/-- What stands between single quotes: a quote is written twice, and what follows line breaks is
indented, the closing quote too. -/
def singleQuotedBody (indent : Nat) (fresh : Bool) : List Char → List Char
  | [] => if fresh then List.replicate indent ' ' else []
  | c :: rest =>
      if isBreak c then c :: singleQuotedBody indent true rest
      else
        (if fresh then List.replicate indent ' ' else []) ++
          (if c = '\'' then ['\'', '\''] else [c]) ++ singleQuotedBody indent false rest

def singleQuoted (indent : Nat) (s : List Char) : List Char :=
  '\'' :: singleQuotedBody indent false s ++ ['\'']

def codeDigits (width n : Nat) : List Char :=
  let ds := (Nat.toDigits 16 n).map Char.toUpper
  List.replicate (width - ds.length) '0' ++ ds

def doubleChar (c : Char) : List Char :=
  let n := c.toNat
  if c = '"' then ['\\', '"']
  else if c = '\\' then ['\\', '\\']
  else if isPrintable c ∧ !isBreak c then [c]
  else if n = 0x00 then ['\\', '0']
  else if n = 0x07 then ['\\', 'a']
  else if n = 0x08 then ['\\', 'b']
  else if n = 0x09 then ['\\', 't']
  else if n = 0x0A then ['\\', 'n']
  else if n = 0x0B then ['\\', 'v']
  else if n = 0x0C then ['\\', 'f']
  else if n = 0x0D then ['\\', 'r']
  else if n = 0x1B then ['\\', 'e']
  else if n = 0x85 then ['\\', 'N']
  else if n = 0x2028 then ['\\', 'L']
  else if n = 0x2029 then ['\\', 'P']
  else if n ≤ 0xFF then ['\\', 'x'] ++ codeDigits 2 n
  else if n ≤ 0xFFFF then ['\\', 'u'] ++ codeDigits 4 n
  else ['\\', 'U'] ++ codeDigits 8 n

def doubleQuoted (s : List Char) : List Char :=
  '"' :: s.flatMap doubleChar ++ ['"']

/-- What is said of a block: that it begins with white space, and how it ends. -/
def blockHints (s : List Char) : List Char :=
  (if s.head?.any fun c => c == ' ' || isBreak c then ['2'] else []) ++
    (match s.reverse with
      | [] => ['-']
      | [c] => if isBreak c then ['+'] else ['-']
      | c :: d :: _ => if !isBreak c then ['-'] else if isBreak d then ['+'] else [])

/-- The lines of a block; only lines that hold something are indented. -/
def blockLines (indent : Nat) (fresh : Bool) : List Char → List Char
  | [] => []
  | c :: rest =>
      if isBreak c then c :: blockLines indent true rest
      else
        (if fresh then List.replicate indent ' ' else []) ++ c :: blockLines indent false rest

def block (indent : Nat) (s : List Char) : List Char :=
  '|' :: blockHints s ++ '\n' :: blockLines indent true s

def scalar (indent : Nat) (s : String) : String :=
  String.ofList <|
    match styleOf s.toList with
    | .plain => s.toList
    | .single => singleQuoted indent s.toList
    | .double => doubleQuoted s.toList
    | .literal => block indent s.toList

/-- A text at the end of its line.  A block that ends with a line break of any kind needs no other
one. -/
def closed (s : String) : String :=
  if s.toList.getLast?.any isBreak then s else s ++ "\n"

end Yaml
end PointInTime
