import PointInTime.Text.Decimal

/-!
# Socket addresses

An address to listen on is an IP address and a port.  Version 4 is four decimal numbers; version 6
is eight groups of hexadecimal digits in brackets, of which a run of zeros may be left out once and
the last two may be written as an address of version 4.
-/

namespace PointInTime

inductive IpAddress where
  /-- Four numbers below 256. -/
  | v4 (bytes : List Nat)
  /-- Eight numbers below 65536, and the scope of a local address. -/
  | v6 (groups : List Nat) (scopeId : Nat)
deriving DecidableEq, Repr

structure SocketAddress where
  ip : IpAddress
  port : Nat
deriving DecidableEq, Repr

namespace SocketAddress

open Text

/-! ## Reading -/

def expect? (c : Char) : List Char → Option (List Char)
  | [] => none
  | d :: rest => if d = c then some rest else none

def decimal? (bound : Nat) (s : List Char) : Option (Nat × List Char) :=
  let ds := s.takeWhile Char.isDigit
  let n := Nat.ofDigitChars 10 ds 0
  if ds ≠ [] ∧ n < bound then some (n, s.dropWhile Char.isDigit) else none

/-- A byte in decimal, without a zero in front of another digit. -/
def byte? (s : List Char) : Option (Nat × List Char) :=
  match s.takeWhile Char.isDigit with
  | '0' :: _ :: _ => none
  | ds => if ds.length ≤ 3 then decimal? 256 s else none

def v4? (s : List Char) : Option (List Nat × List Char) := do
  let (a, s) ← byte? s
  let (b, s) ← byte? (← expect? '.' s)
  let (c, s) ← byte? (← expect? '.' s)
  let (d, s) ← byte? (← expect? '.' s)
  return ([a, b, c, d], s)

def hexDigit? (c : Char) : Option Nat :=
  if c.isDigit then some (c.toNat - 48)
  else if 'a' ≤ c ∧ c ≤ 'f' then some (c.toNat - 87)
  else if 'A' ≤ c ∧ c ≤ 'F' then some (c.toNat - 55)
  else none

def group? (s : List Char) : Option (Nat × List Char) :=
  let ds := s.takeWhile fun c => (hexDigit? c).isSome
  if 1 ≤ ds.length ∧ ds.length ≤ 4 then
    some (ds.foldl (fun n c => n * 16 + (hexDigit? c).getD 0) 0, s.drop ds.length)
  else none

def separator? (isFirst : Bool) (s : List Char) : Option (List Char) :=
  if isFirst then some s else expect? ':' s

/-- Two groups written as an address of version 4. -/
def embedded? (isFirst : Bool) (s : List Char) : Option (List Nat × List Char) := do
  match ← v4? (← separator? isFirst s) with
  | ([a, b, c, d], rest) => return ([a * 256 + b, c * 256 + d], rest)
  | _ => none

/-- At most `limit` groups, whether the last of them were an address of version 4, and what
follows. -/
def groups (isFirst : Bool) : Nat → List Char → List Nat × Bool × List Char
  | 0, s => ([], false, s)
  | limit + 1, s =>
      match if limit = 0 then none else embedded? isFirst s with
      | some (pair, rest) => (pair, true, rest)
      | none =>
          match (separator? isFirst s).bind group? with
          | some (g, rest) =>
              let (more, isEmbedded, rest) := groups false limit rest
              (g :: more, isEmbedded, rest)
          | none => ([], false, s)

/-- Eight groups; two colons stand for as many zeros as are missing, one at least. -/
def v6? (s : List Char) : Option (List Nat × List Char) :=
  match groups true 8 s with
  | (before, isEmbedded, rest) =>
      if before.length = 8 then some (before, rest)
      else if isEmbedded then none
      else
        match rest with
        | ':' :: ':' :: rest =>
            let (after, _, rest) := groups true (7 - before.length) rest
            some (before ++ List.replicate (8 - before.length - after.length) 0 ++ after, rest)
        | _ => none

def scope? (s : List Char) : Option (Nat × List Char) :=
  match s with
  | '%' :: rest => decimal? UInt32.size rest
  | _ => some (0, s)

def ip? (s : List Char) : Option (IpAddress × List Char) :=
  match s with
  | '[' :: rest => do
      let (groups, rest) ← v6? rest
      let (scopeId, rest) ← scope? rest
      return (.v6 groups scopeId, ← expect? ']' rest)
  | _ => (v4? s).map fun (bytes, rest) => (.v4 bytes, rest)

def ofText? (s : String) : Option SocketAddress := do
  let (ip, rest) ← ip? s.toList
  let (port, rest) ← decimal? 65536 (← expect? ':' rest)
  if rest = [] then some ⟨ip, port⟩ else none

/-! ## Writing -/

def v4Text (bytes : List Nat) : String :=
  ".".intercalate (bytes.map toString)

def groupsText (groups : List Nat) : String :=
  ":".intercalate (groups.map fun g => String.ofList (Nat.toDigits 16 g))

def leadingZeros (groups : List Nat) : Nat :=
  (groups.takeWhile (· == 0)).length

/-- The first of the longest runs of zeros: where it begins and how long it is. -/
def longestZeros (groups : List Nat) : Nat × Nat :=
  (List.range groups.length).foldl
    (fun best i =>
      let n := leadingZeros (groups.drop i)
      if best.2 < n then (i, n) else best)
    (0, 0)

def v6Text (groups : List Nat) : String :=
  match groups with
  | [0, 0, 0, 0, 0, 0xFFFF, a, b] =>
      "::ffff:" ++ v4Text [a / 256, a % 256, b / 256, b % 256]
  | _ =>
      let (start, length) := longestZeros groups
      if 1 < length then
        groupsText (groups.take start) ++ "::" ++ groupsText (groups.drop (start + length))
      else groupsText groups

def text (a : SocketAddress) : String :=
  (match a.ip with
    | .v4 bytes => v4Text bytes
    | .v6 groups 0 => "[" ++ v6Text groups ++ "]"
    | .v6 groups scopeId => "[" ++ v6Text groups ++ "%" ++ toString scopeId ++ "]") ++
    ":" ++ toString a.port

end SocketAddress
end PointInTime
