/-!
# Media types

A body is taken for JSON if its media type says so, in whatever case and with whatever parameters:
the type is `application`, and `json` is the subtype, or what stands before or after the last plus
sign in it.  A plus sign that opens a subtype divides nothing.
-/

namespace PointInTime
namespace Http
namespace MediaType

/-! ## Characters -/

def isToken (c : Char) : Bool :=
  c.isAlphanum || "!#$%&'*+-.^_|~".toList.contains c || c.toNat == 0x60

def isQuotable (c : Char) : Bool :=
  0x20 ≤ c.toNat && c.toNat < 0x7F

/-! ## Parameters -/

inductive Reading where
  /-- Nothing yet; blanks may come. -/
  | nothing
  | name
  /-- The name and the equals sign. -/
  | assigned
  | value
  /-- The quote that opens a value. -/
  | quote
  | quotedValue
  /-- The quote that closes a value; blanks may come. -/
  | quoted
deriving DecidableEq, Repr

/-- Whether parameters go on well: each has a name and a value, and a semicolon stands between two
of them.  A quote closes nothing right after the one that opens, and only the value of the last
parameter may be empty. -/
def goesOn : Reading → List Char → Bool
  | .nothing, [] => true
  | .name, [] => false
  | .assigned, [] => true
  | .value, [] => true
  | .quote, [] => false
  | .quotedValue, [] => false
  | .quoted, [] => true
  | .nothing, c :: rest => if c = ' ' then goesOn .nothing rest else isToken c && goesOn .name rest
  | .name, c :: rest => if c = '=' then goesOn .assigned rest else isToken c && goesOn .name rest
  | .assigned, c :: rest => if c = '"' then goesOn .quote rest else isToken c && goesOn .value rest
  | .value, c :: rest => if c = ';' then goesOn .nothing rest else isToken c && goesOn .value rest
  | .quote, c :: rest => isQuotable c && goesOn .quotedValue rest
  | .quotedValue, c :: rest =>
      if c = '"' then goesOn .quoted rest else isQuotable c && goesOn .quotedValue rest
  | .quoted, c :: rest => if c = ';' then goesOn .nothing rest else c = ' ' && goesOn .quoted rest

/-! ## Types -/

def cut (c : Char) (s : List Char) : List Char × Option (List Char) :=
  match s.dropWhile (· ≠ c) with
  | [] => (s, none)
  | _ :: rest => (s.takeWhile (· ≠ c), some rest)

/-- The parts of a subtype before and after its last plus sign, of which one at the start does not
count; without any, the subtype alone. -/
def subtypeParts : List Char → List (List Char)
  | [] => [[]]
  | first :: rest =>
      match cut '+' rest.reverse with
      | (_, none) => [first :: rest]
      | (after, some before) => [first :: before.reverse, after.reverse]

/-- A text in lower case; media types have no letters beyond ASCII. -/
def fold (s : List Char) : List Char :=
  s.map Char.toLower

def isJson (mediaType : String) : Bool :=
  let (type, rest) := cut '/' mediaType.toList
  let (subtype, parameters) := cut ';' (rest.getD [])
  fold type == "application".toList && subtype.all isToken &&
    parameters.all (goesOn .nothing) &&
    (subtypeParts (fold subtype)).contains "json".toList

end MediaType
end Http
end PointInTime
