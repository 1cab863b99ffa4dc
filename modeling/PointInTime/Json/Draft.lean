import PointInTime.Json.Basic
import PointInTime.Text.Double

/-!
# Drafts

A JSON text that someone sent need not be one to its end.  A draft is what can be read of it up to
the first fault, so that a reader who goes through it in the order of the text meets the faults of
shape before those that come later.
-/

namespace PointInTime
namespace Json

inductive Draft where
  | null
  | bool (b : Bool)
  /-- A number, and whether it is in range. -/
  | number (inRange : Bool)
  /-- A text; none where its escapes stand for no characters. -/
  | text (s : Option String)
  | list (items : List Draft) (complete : Bool)
  /-- Fields by their names; a name is a text like any other. -/
  | object (fields : List (Option String × Draft)) (complete : Bool)
  /-- Here the text stops being JSON. -/
  | fault
deriving Repr, Inhabited

namespace Draft

mutual

def isWhole : Draft → Bool
  | fault => false
  | list items complete => areWhole items && complete
  | object fields complete => fieldsAreWhole fields && complete
  | _ => true

def areWhole : List Draft → Bool
  | [] => true
  | d :: rest => isWhole d && areWhole rest

def fieldsAreWhole : List (Option String × Draft) → Bool
  | [] => true
  | (_, d) :: rest => isWhole d && fieldsAreWhole rest

end

/-! ## White space and words -/

def isSpace (c : Char) : Bool :=
  c == ' ' || c == '\n' || c == '\t' || c == '\r'

def skip (s : List Char) : List Char :=
  s.dropWhile isSpace

def word (letters : List Char) (value : Draft) (s : List Char) : Draft × List Char :=
  if letters.isPrefixOf s then (value, s.drop letters.length) else (.fault, s)

/-! ## Numbers -/

def digits? (s : List Char) : Option (List Char × List Char) :=
  let ds := s.takeWhile Char.isDigit
  if ds = [] then none else some (ds, s.dropWhile Char.isDigit)

def whole? (s : List Char) : Option (List Char × List Char) :=
  match digits? s with
  | some ('0' :: _ :: _, _) => none
  | found => found

def fraction? (s : List Char) : Option (List Char × List Char) :=
  match s with
  | '.' :: rest => (digits? rest).map fun (ds, rest) => ('.' :: ds, rest)
  | _ => some ([], s)

def power? (s : List Char) : Option (List Char × List Char) :=
  match s with
  | c :: rest =>
      if c = 'e' ∨ c = 'E' then
        let sign := if rest.head? = some '+' ∨ rest.head? = some '-' then rest.take 1 else []
        (digits? (rest.drop sign.length)).map fun (ds, rest) => ('e' :: sign ++ ds, rest)
      else some ([], s)
  | [] => some ([], [])

def unsigned? (s : List Char) : Option (Bool × List Char) := do
  let (whole, s) ← whole? s
  let (fraction, s) ← fraction? s
  let (power, s) ← power? s
  let (n, exponent) ← Text.decimal? (whole ++ fraction ++ power)
  return (Text.isFinite n exponent, s)

def numberAt (s : List Char) : Draft × List Char :=
  let digits := match s with
    | '-' :: rest => rest
    | _ => s
  match unsigned? digits with
  | some (inRange, rest) => (.number inRange, rest)
  | none => (.fault, s)

/-! ## Texts -/

/-- A piece of a text: a character, or a unit of sixteen bits given by an escape. -/
inductive Piece where
  | char (c : Char)
  | unit (n : Nat)

/-- The characters of pieces; two units in a row may make one. -/
def charsOf? : List Piece → Option (List Char)
  | [] => some []
  | .char c :: rest => (charsOf? rest).map (c :: ·)
  | .unit high :: .unit low :: rest =>
      if 0xD800 ≤ high ∧ high < 0xDC00 then
        if 0xDC00 ≤ low ∧ low < 0xE000 then
          (charsOf? rest).map
            (Char.ofNat (0x10000 + (high - 0xD800) * 0x400 + (low - 0xDC00)) :: ·)
        else none
      else if 0xDC00 ≤ high ∧ high < 0xE000 then none
      else (charsOf? (.unit low :: rest)).map (Char.ofNat high :: ·)
  | .unit n :: rest =>
      if 0xD800 ≤ n ∧ n < 0xE000 then none else (charsOf? rest).map (Char.ofNat n :: ·)

def hexDigit? (c : Char) : Option Nat :=
  if c.isDigit then some (c.toNat - 48)
  else if 'a' ≤ c ∧ c ≤ 'f' then some (c.toNat - 87)
  else if 'A' ≤ c ∧ c ≤ 'F' then some (c.toNat - 55)
  else none

def unit? : List Char → Option (Nat × List Char)
  | a :: b :: c :: d :: rest => do
      let a ← hexDigit? a
      let b ← hexDigit? b
      let c ← hexDigit? c
      let d ← hexDigit? d
      return (((a * 16 + b) * 16 + c) * 16 + d, rest)
  | _ => none

def escape? : Char → Option Char
  | '"' => some '"'
  | '\\' => some '\\'
  | '/' => some '/'
  | 'b' => some '\x08'
  | 'f' => some '\x0c'
  | 'n' => some '\n'
  | 'r' => some '\r'
  | 't' => some '\t'
  | _ => none

def pieces? : Nat → List Char → Option (List Piece × List Char)
  | 0, _ => none
  | _ + 1, [] => none
  | _ + 1, '"' :: rest => some ([], rest)
  | fuel + 1, '\\' :: 'u' :: rest => do
      let (n, rest) ← unit? rest
      let (ps, rest) ← pieces? fuel rest
      return (.unit n :: ps, rest)
  | fuel + 1, '\\' :: c :: rest => do
      let c ← escape? c
      let (ps, rest) ← pieces? fuel rest
      return (.char c :: ps, rest)
  | fuel + 1, c :: rest => do
      if c.toNat < 0x20 ∨ c = '\\' then none
      let (ps, rest) ← pieces? fuel rest
      return (.char c :: ps, rest)

def textAt (s : List Char) : Draft × List Char :=
  match pieces? (s.length + 1) s with
  | some (ps, rest) => (.text ((charsOf? ps).map String.ofList), rest)
  | none => (.fault, s)

/-! ## Lists and objects -/

def consItem (d : Draft) : Draft × List Char → Draft × List Char
  | (.list items complete, rest) => (.list (d :: items) complete, rest)
  | found => found

def consField (key : Option String) (d : Draft) : Draft × List Char → Draft × List Char
  | (.object fields complete, rest) => (.object ((key, d) :: fields) complete, rest)
  | found => found

mutual

def valueAt : Nat → List Char → Draft × List Char
  | 0, s => (.fault, s)
  | fuel + 1, s =>
      match skip s with
      | '\x7b' :: rest =>
          match skip rest with
          | '\x7d' :: rest => (.object [] true, rest)
          | rest => fieldsAt fuel rest
      | '[' :: rest =>
          match skip rest with
          | ']' :: rest => (.list [] true, rest)
          | rest => itemsAt fuel rest
      | '"' :: rest => textAt rest
      | 'n' :: rest => word ['u', 'l', 'l'] .null rest
      | 't' :: rest => word ['r', 'u', 'e'] (.bool true) rest
      | 'f' :: rest => word ['a', 'l', 's', 'e'] (.bool false) rest
      | [] => (.fault, [])
      | c :: rest => if c = '-' ∨ c.isDigit then numberAt (c :: rest) else (.fault, c :: rest)

def itemsAt : Nat → List Char → Draft × List Char
  | 0, s => (.list [] false, s)
  | fuel + 1, s =>
      let (d, rest) := valueAt fuel s
      if d.isWhole then
        match skip rest with
        | ']' :: rest => (.list [d] true, rest)
        | ',' :: rest => consItem d (itemsAt fuel rest)
        | rest => (.list [d] false, rest)
      else (.list [d] false, rest)

def fieldsAt : Nat → List Char → Draft × List Char
  | 0, s => (.object [] false, s)
  | fuel + 1, s =>
      match skip s with
      | '"' :: rest =>
          match textAt rest with
          | (.text key, rest) =>
              match skip rest with
              | ':' :: rest =>
                  let (d, rest) := valueAt fuel rest
                  if d.isWhole then
                    match skip rest with
                    | '\x7d' :: rest => (.object [(key, d)] true, rest)
                    | ',' :: rest => consField key d (fieldsAt fuel rest)
                    | rest => (.object [(key, d)] false, rest)
                  else (.object [(key, d)] false, rest)
              | rest => (.object [(key, .fault)] false, rest)
          | (_, rest) => (.object [] false, rest)
      | rest => (.object [] false, rest)

end

def read (s : String) : Draft × Bool :=
  let (d, rest) := valueAt (2 * s.length + 2) s.toList
  (d, (skip rest).isEmpty)

end Draft
end Json
end PointInTime
