import PointInTime.Text.Decimal
import PointInTime.Instant.Basic

/-!
# The plain form of an instant

`YYYY-MM-DD HH:MM:SS` in UTC is the form in which instants are shown, stored and asked for, and
`YYYYMMDDHHMMSS` the form in which they enter names.  Both show whole seconds, a leap second as
second 60.  Years have at least four digits; those after 9999 and before 0 carry a sign.

Reading is more lenient than writing: white space may stand before every number and takes the
place of the blank, and a number may have fewer digits than are written.
-/

namespace PointInTime
namespace Instant

open Text

/-! ## Writing -/

/-- A year with at least four digits, signed outside 0 to 9999. -/
def yearText (year : Int) : List Char :=
  if year < 0 then '-' :: padded 4 year.natAbs
  else if 9999 < year then '+' :: padded 4 year.natAbs
  else padded 4 year.natAbs

def plainText (t : Instant) : List Char :=
  yearText t.date.year ++ '-' :: padded 2 t.date.month ++ '-' :: padded 2 t.date.day ++
    ' ' :: padded 2 t.hour ++ ':' :: padded 2 t.minute ++ ':' :: padded 2 t.secondOfMinute

def minuteText (t : Instant) : List Char :=
  yearText t.date.year ++ padded 2 t.date.month ++ padded 2 t.date.day ++
    padded 2 t.hour ++ padded 2 t.minute

def secondText (t : Instant) : List Char :=
  t.minuteText ++ padded 2 t.secondOfMinute

def format (t : Instant) : String :=
  String.ofList t.plainText

def nameSuffix (t : Instant) : String :=
  String.ofList t.secondText

/-! ## Reading -/

def expect? (c : Char) : List Char → Option (List Char)
  | [] => none
  | d :: s => if d = c then some s else none

/-- A year after white space: four digits at most, or a sign and any number of digits. -/
def year? (s : List Char) : Option (Int × List Char) :=
  match trimStart s with
  | '-' :: s => (number? 1 s.length s).map fun (n, rest) => (-(n : Int), rest)
  | '+' :: s => (number? 1 s.length s).map fun (n, rest) => ((n : Int), rest)
  | s => (number? 1 4 s).map fun (n, rest) => ((n : Int), rest)

def twoDigits? (s : List Char) : Option (Nat × List Char) :=
  number? 1 2 (trimStart s)

/-- The plain form as the whole of a text, white space and missing zeros allowed. -/
def ofPlain? (s : List Char) : Option Instant := do
  let (year, s) ← year? s
  let s ← expect? '-' s
  let (month, s) ← twoDigits? s
  let s ← expect? '-' s
  let (day, s) ← twoDigits? s
  let (hour, s) ← twoDigits? (trimStart s)
  let s ← expect? ':' s
  let (minute, s) ← twoDigits? s
  let s ← expect? ':' s
  let (second, s) ← twoDigits? s
  if s = [] then
    WallClock.toInstant? ⟨⟨year, month, day⟩, hour, minute, second, 0⟩ 0
  else none

theorem expect?_cons (c : Char) (s : List Char) : expect? c (c :: s) = some s := by
  simp [expect?]

end Instant
end PointInTime
