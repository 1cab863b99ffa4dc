import PointInTime.Text.Decimal

/-!
# Durations

Waits are counted in milliseconds, the tick of the clock that polls and pauses go by.  People give
them in whole seconds, minutes or hours.
-/

namespace PointInTime

/-- A length of time in milliseconds. -/
structure Duration where
  millis : Nat
deriving DecidableEq, Repr, Inhabited

namespace Duration

def ofSeconds (s : Nat) : Duration := ⟨s * 1000⟩

def ofMinutes (m : Nat) : Duration := ofSeconds (m * 60)

def ofHours (h : Nat) : Duration := ofSeconds (h * 3600)

def seconds (d : Duration) : Nat := d.millis / 1000

instance : Add Duration where
  add a b := ⟨a.millis + b.millis⟩

/-- The number of seconds that no duration given by a person reaches. -/
def secondsBound : Nat := UInt64.size

/-- The unit letter at the end of a text, as seconds, and the text before it; seconds without. -/
def splitUnit (s : List Char) : List Char × Nat :=
  match s.reverse with
  | 'h' :: r => (r.reverse, 3600)
  | 'm' :: r => (r.reverse, 60)
  | 's' :: r => (r.reverse, 1)
  | _ => (s, 1)

/-- A count and a unit letter, white space around them ignored. -/
def ofGiven? (s : List Char) : Option Duration :=
  let (digits, unit) := splitUnit (Text.trim s)
  match Text.numeral? secondsBound digits with
  | some n => if n * unit < secondsBound then some (ofSeconds (n * unit)) else none
  | none => none

end Duration
end PointInTime
