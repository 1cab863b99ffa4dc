import PointInTime.Text.Parts

/-!
# Addresses of requests

A request is sent to a path with a query, alone or behind a scheme and an authority.  What follows
a hash mark is no part of it.  Characters that cannot stand in an address make it unreadable; all
beyond ASCII can.
-/

namespace PointInTime
namespace Http

/-! ## Targets -/

structure Target where
  path : List Char
  query : List Char := []
deriving DecidableEq, Repr

namespace Target

def isPathChar (c : Char) : Bool :=
  0x20 < c.toNat && c.toNat != 0x60 && c.toNat != 0x7F && c != '<' && c != '>'

def isQueryChar (c : Char) : Bool :=
  0x20 < c.toNat && c.toNat != 0x7F && c != '<' && c != '>' && c != '"'

/-- The path, and the query after a question mark. -/
def ofText? (s : List Char) : Option Target :=
  let sent := s.takeWhile (· ≠ '#')
  let path := sent.takeWhile (· ≠ '?')
  let query := (sent.dropWhile (· ≠ '?')).drop 1
  if path.all isPathChar && query.all isQueryChar then some ⟨path, query⟩ else none

def parts (t : Target) : List String :=
  (Text.parts '/' t.path).map String.ofList

end Target

/-! ## Authorities -/

structure Authority where
  /-- Colons since the last at sign or closing bracket. -/
  colons : Nat := 0
  opened : Bool := false
  closed : Bool := false
  /-- A percent sign since the last at sign or closing bracket. -/
  escaped : Bool := false
  /-- The last character is an at sign. -/
  dangling : Bool := false

namespace Authority

def isPlain (c : Char) : Bool :=
  c.isAlphanum || "!$&'()*+,-.;=_~".toList.contains c

def push? (a : Authority) (c : Char) : Option Authority :=
  match c with
  | ':' => if a.colons < 8 then some { a with colons := a.colons + 1, dangling := false } else none
  | '[' =>
      if a.escaped || a.opened then none else some { a with opened := true, dangling := false }
  | ']' =>
      if !a.opened || a.closed then none
      else some { opened := true, closed := true }
  | '@' => some { a with colons := 0, escaped := false, dangling := true }
  | '%' => some { a with escaped := true, dangling := false }
  | c => if isPlain c then some { a with dangling := false } else none

def isComplete (a : Authority) : Bool :=
  a.opened == a.closed && a.colons ≤ 1 && !a.dangling && !a.escaped

/-- Whether a text is an authority: a host, perhaps with a port and a user. -/
def isValid (s : List Char) : Bool :=
  (s.foldlM push? {}).any isComplete

end Authority

/-! ## Schemes -/

def isSchemeChar (c : Char) : Bool :=
  c.isAlphanum || c == '+' || c == '-' || c == '.' || c == '~'

/-- What follows a scheme, a colon and two slashes. -/
def afterScheme? (s : List Char) : Option (List Char) :=
  match s.dropWhile isSchemeChar with
  | ':' :: '/' :: '/' :: rest => some rest
  | _ => none

def Target.ofUri? (uri : String) : Option Target :=
  let s := uri.toList
  if s.head? = some '/' then ofText? s
  else if s = ['*'] then some ⟨s, []⟩
  else
    let isHost (c : Char) : Bool := c != '/' && c != '?' && c != '#'
    match afterScheme? s with
    | none => if s ≠ [] && Authority.isValid s then some ⟨[], []⟩ else none
    | some rest =>
        let host := rest.takeWhile isHost
        if host ≠ [] && Authority.isValid host then
          (ofText? (rest.dropWhile isHost)).map fun t =>
            if t.path = [] then { t with path := ['/'] } else t
        else none

end Http
end PointInTime
