import PointInTime.Instant.Plain

/-!
# Instants in RFC 3339

The strict form `YYYY-MM-DDTHH:MM:SS.fffZ` has fixed widths and a mandatory offset.  Stored
objects are read in a relaxed form of it, with white space and short numbers, and written back
with as many fraction digits as they need in groups of three.
-/

namespace PointInTime
namespace Instant

open Text

/-! ## Pieces -/

def dateTimeMark? : List Char → Option (List Char)
  | 'T' :: s => some s
  | 't' :: s => some s
  | ' ' :: s => some s
  | _ => none

/-- The nanoseconds of a run of fraction digits; what is finer is cut off. -/
def nanosOf (ds : List Char) : Nat :=
  Nat.ofDigitChars 10 ((ds ++ List.replicate (9 - ds.length) '0').take 9) 0

/-- An optional fraction of a second: a point and at least one digit. -/
def fraction? (s : List Char) : Option (Nat × List Char) :=
  match s with
  | '.' :: rest =>
      let (ds, rest) := takeDigits rest.length rest
      if ds = [] then none else some (nanosOf ds, rest)
  | _ => some (0, s)

/-- The sign of an offset: plus, hyphen or the minus sign U+2212. -/
def offsetSign? : List Char → Option (Int × List Char)
  | '+' :: s => some (1, s)
  | '-' :: s => some (-1, s)
  | '\u2212' :: s => some (-1, s)
  | _ => none

/-- An offset in seconds: the letter Z, or a sign, two digits of hours, what `separator?` takes,
and two digits of minutes. -/
def offset? (separator? : List Char → Option (List Char)) (s : List Char) :
    Option (Int × List Char) :=
  match s with
  | 'Z' :: rest => some (0, rest)
  | 'z' :: rest => some (0, rest)
  | _ => do
      let (sign, s) ← offsetSign? s
      let (hours, s) ← number? 2 2 s
      let s ← separator? s
      let (minutes, s) ← number? 2 2 s
      if minutes ≤ 59 ∧ hours ≤ 23 then
        some (sign * (hours * 3600 + minutes * 60 : Nat), s)
      else none

/-! ## The strict form -/

def ofRfc3339? (s : List Char) : Option Instant := do
  let (year, s) ← number? 4 4 s
  let s ← expect? '-' s
  let (month, s) ← number? 2 2 s
  let s ← expect? '-' s
  let (day, s) ← number? 2 2 s
  let s ← dateTimeMark? s
  let (hour, s) ← number? 2 2 s
  let s ← expect? ':' s
  let (minute, s) ← number? 2 2 s
  let s ← expect? ':' s
  let (second, s) ← number? 2 2 s
  let (fraction, s) ← fraction? s
  let (offset, s) ← offset? (expect? ':') s
  if s = [] then
    WallClock.toInstant? ⟨⟨year, month, day⟩, hour, minute, second, fraction⟩ offset
  else none

/-! ## The relaxed form -/

/-- The letters UTC in any case, or an offset whose minutes may follow colons and white space. -/
def relaxedOffset? (s : List Char) : Option (Int × List Char) :=
  match s with
  | u :: t :: c :: rest =>
      if u.toUpper = 'U' ∧ t.toUpper = 'T' ∧ c.toUpper = 'C' then some (0, rest)
      else relaxed s
  | _ => relaxed s
where
  relaxed := offset? fun s => some (s.dropWhile fun c => c == ':' || isBlank c)

/-- The form of stored objects: short numbers and white space around them are allowed. -/
def ofStored? (s : List Char) : Option Instant := do
  let (year, s) ← year? s
  let s ← expect? '-' (trimStart s)
  let (month, s) ← twoDigits? s
  let s ← expect? '-' (trimStart s)
  let (day, s) ← twoDigits? s
  let s ← dateTimeMark? s
  let (hour, s) ← twoDigits? s
  let s ← expect? ':' (trimStart s)
  let (minute, s) ← twoDigits? s
  let s ← expect? ':' (trimStart s)
  let (second, s) ← twoDigits? s
  let (fraction, s) ← fraction? s
  let (offset, s) ← relaxedOffset? (trimStart s)
  if trimStart s = [] then
    WallClock.toInstant? ⟨⟨year, month, day⟩, hour, minute, second, fraction⟩ offset
  else none

/-- As many groups of three fraction digits as a number of nanoseconds needs. -/
def fractionText (nanos : Nat) : List Char :=
  if nanos = 0 then []
  else if nanos % 1000000 = 0 then '.' :: padded 3 (nanos / 1000000)
  else if nanos % 1000 = 0 then '.' :: padded 6 (nanos / 1000)
  else '.' :: padded 9 nanos

def storedText (t : Instant) : List Char :=
  yearText t.date.year ++ '-' :: padded 2 t.date.month ++ '-' :: padded 2 t.date.day ++
    'T' :: padded 2 t.hour ++ ':' :: padded 2 t.minute ++ ':' :: padded 2 t.secondOfMinute ++
    fractionText t.fraction ++ ['Z']

/-! ## Either form -/

/-- An instant as a person gives it: the plain form, or RFC 3339, white space around it ignored. -/
def ofGiven? (s : List Char) : Option Instant :=
  let s := trim s
  (ofPlain? s).or (ofRfc3339? s)

end Instant
end PointInTime
