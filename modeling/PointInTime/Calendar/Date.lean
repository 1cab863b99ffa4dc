/-!
# Dates of the proleptic Gregorian calendar

A date is counted in days from the first of January of year 0.  Year 0 exists and the leap-year
rule holds for all years, before and after it.  A year is found from its estimate by the mean
length of a year, a month by walking along the twelve lengths.
-/

namespace PointInTime
namespace Calendar

/-! ## Years and months -/

def isLeap (year : Int) : Bool :=
  year % 4 == 0 && (year % 100 != 0 || year % 400 == 0)

def daysBeforeYear (year : Int) : Int :=
  365 * year + (year + 3) / 4 - (year + 99) / 100 + (year + 399) / 400

def yearLength (year : Int) : Nat :=
  if isLeap year then 366 else 365

def monthLengths (leap : Bool) : List Nat :=
  [31, if leap then 29 else 28, 31, 30, 31, 30, 31, 31, 30, 31, 30, 31]

/-- The number of days of a month, counted from 1; none for a month that does not exist. -/
def monthLength (year : Int) (month : Nat) : Nat :=
  if month = 0 then 0 else (monthLengths (isLeap year)).getD (month - 1) 0

def daysBeforeMonth (leap : Bool) (month : Nat) : Nat :=
  ((monthLengths leap).take (month - 1)).foldr (· + ·) 0

/-! ## Dates -/

structure Date where
  year : Int
  month : Nat
  day : Nat
deriving DecidableEq, Repr

namespace Date

def IsValid (d : Date) : Prop :=
  1 ≤ d.month ∧ d.month ≤ 12 ∧ 1 ≤ d.day ∧ d.day ≤ monthLength d.year d.month

instance (d : Date) : Decidable d.IsValid := by
  unfold IsValid; infer_instance

def toDays (d : Date) : Int :=
  daysBeforeYear d.year + daysBeforeMonth (isLeap d.year) d.month + (d.day : Int) - 1

/-- The year that holds a day: the mean length of a year is 146097 days in 400 years, and the
estimate by it is off by at most one. -/
def yearOfDays (n : Int) : Int :=
  let y := n * 400 / 146097
  if n < daysBeforeYear y then y - 1
  else if daysBeforeYear (y + 1) ≤ n then y + 1
  else y

/-- Which of the listed lengths a count falls into, and what is left of it there. -/
def splitDays : List Nat → Nat → Nat × Nat
  | [], n => (0, n)
  | l :: ls, n =>
      if n < l then (0, n)
      else
        let (i, rest) := splitDays ls (n - l)
        (i + 1, rest)

def ofDays (n : Int) : Date :=
  let year := yearOfDays n
  let (month, day) := splitDays (monthLengths (isLeap year)) (n - daysBeforeYear year).toNat
  ⟨year, month + 1, day + 1⟩

end Date

/-! ## The year of a day -/

theorem daysBeforeYear_succ (year : Int) :
    daysBeforeYear (year + 1) = daysBeforeYear year + yearLength year := by
  unfold daysBeforeYear yearLength isLeap
  by_cases h4 : year % 4 = 0 <;> by_cases h100 : year % 100 = 0 <;>
    by_cases h400 : year % 400 = 0 <;> simp [h4, h100, h400] <;> omega

theorem yearOfDays_bounds (n : Int) :
    daysBeforeYear (Date.yearOfDays n) ≤ n ∧ n < daysBeforeYear (Date.yearOfDays n + 1) := by
  unfold Date.yearOfDays
  simp only
  generalize hy : n * 400 / 146097 = y
  have h1 : 146097 * y ≤ n * 400 := by omega
  have h2 : n * 400 < 146097 * (y + 1) := by omega
  split
  · next h =>
    rw [Int.sub_add_cancel]
    unfold daysBeforeYear at h ⊢
    constructor <;> omega
  · next h =>
    split
    · next h' =>
      refine ⟨h', ?_⟩
      unfold daysBeforeYear at h ⊢
      omega
    · next h' => exact ⟨by omega, by omega⟩

theorem foldr_monthLengths (year : Int) :
    (monthLengths (isLeap year)).foldr (· + ·) 0 = yearLength year := by
  unfold yearLength
  cases isLeap year <;> rfl

end Calendar
end PointInTime
