import PointInTime.Instant.Plain

/-!
# Ages

How long ago something was, in the largest unit of which at least one has passed.  What lies in the
future has no age yet.
-/

namespace PointInTime

/-- An age of some seconds, in whole days, hours, minutes or seconds. -/
def ageText (seconds : Int) : String :=
  if seconds < 0 then "0s"
  else if 0 < seconds / 86400 then toString (seconds / 86400) ++ "d"
  else if 0 < seconds / 3600 then toString (seconds / 3600) ++ "h"
  else if 0 < seconds / 60 then toString (seconds / 60) ++ "m"
  else toString seconds ++ "s"

namespace Instant

/-- The whole seconds from one instant to a later one, none if it is not later. -/
def secondsUntil (t now : Instant) : Int :=
  let elapsed := now.unix - t.unix
  if 0 < elapsed ∧ now.nanos < t.nanos then elapsed - 1 else elapsed

def age (now t : Instant) : String :=
  ageText (t.secondsUntil now)

/-- An instant in a table, a dash where there is none. -/
def cell (t : Option Instant) : String :=
  (t.map format).getD "-"

end Instant
end PointInTime
