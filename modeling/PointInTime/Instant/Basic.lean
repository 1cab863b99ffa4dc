import PointInTime.Calendar.Date

/-!
# Instants

An instant is a second of UTC, counted from the start of 1970, and a number of nanoseconds in it.
A leap second is the continuation of a second 59: its nanoseconds reach or pass one thousand
million.  The range is that of the years −262143 to 262142.
-/

namespace PointInTime

/-- Days from the first of January of year 0 to the first of January 1970. -/
def Calendar.epochDays : Int := 719528

namespace Instant

/-- The first second of the year −262143. -/
def firstSecond : Int := -8334601228800

/-- The last second of the year 262142. -/
def lastSecond : Int := 8210266876799

def second : Nat := 1000000000

/-- A second in range, and fewer than two thousand million nanoseconds, of which only a second 59
has more than it lasts. -/
def IsValid (unix : Int) (nanos : Nat) : Prop :=
  firstSecond ≤ unix ∧ unix ≤ lastSecond ∧ nanos < 2 * second ∧
    (second ≤ nanos → unix % 60 = 59)

instance (unix : Int) (nanos : Nat) : Decidable (IsValid unix nanos) := by
  unfold IsValid; infer_instance

end Instant

structure Instant where
  unix : Int
  nanos : Nat
  isValid : Instant.IsValid unix nanos
deriving DecidableEq

namespace Instant

theorem ext_iff' {a b : Instant} : a = b ↔ a.unix = b.unix ∧ a.nanos = b.nanos := by
  cases a; cases b; simp

def ofUnix? (unix : Int) (nanos : Nat) : Option Instant :=
  if h : IsValid unix nanos then some ⟨unix, nanos, h⟩ else none

def epoch : Instant := ⟨0, 0, by decide⟩

instance : Inhabited Instant := ⟨epoch⟩

/-! ## Order -/

instance : LE Instant where
  le a b := a.unix < b.unix ∨ (a.unix = b.unix ∧ a.nanos ≤ b.nanos)

instance : LT Instant where
  lt a b := a.unix < b.unix ∨ (a.unix = b.unix ∧ a.nanos < b.nanos)

theorem le_iff {a b : Instant} :
    a ≤ b ↔ a.unix < b.unix ∨ (a.unix = b.unix ∧ a.nanos ≤ b.nanos) := Iff.rfl

theorem lt_iff {a b : Instant} :
    a < b ↔ a.unix < b.unix ∨ (a.unix = b.unix ∧ a.nanos < b.nanos) := Iff.rfl

instance (a b : Instant) : Decidable (a ≤ b) := decidable_of_iff _ le_iff.symm

instance (a b : Instant) : Decidable (a < b) := decidable_of_iff _ lt_iff.symm

theorem le_refl (a : Instant) : a ≤ a := Or.inr ⟨rfl, Nat.le_refl _⟩

theorem le_trans {a b c : Instant} (hab : a ≤ b) (hbc : b ≤ c) : a ≤ c := by
  simp only [le_iff] at *; omega

theorem le_total (a b : Instant) : a ≤ b ∨ b ≤ a := by
  simp only [le_iff]; omega

theorem le_antisymm {a b : Instant} (hab : a ≤ b) (hba : b ≤ a) : a = b := by
  simp only [le_iff] at *; exact ext_iff'.2 ⟨by omega, by omega⟩

/-! ## Whole seconds -/

/-- The start of the second an instant lies in; a leap second counts as a second of its own. -/
def truncate (t : Instant) : Instant where
  unix := t.unix
  nanos := if t.nanos < second then 0 else second
  isValid := by
    obtain ⟨h1, h2, h3, h4⟩ := t.isValid
    refine ⟨h1, h2, ?_, ?_⟩
    · split <;> decide
    · split
      · intro h; exact absurd h (by decide)
      · intro _; exact h4 (by omega)

theorem truncate_le (t : Instant) : t.truncate ≤ t := by
  refine Or.inr ⟨rfl, ?_⟩
  show (if t.nanos < second then 0 else second) ≤ t.nanos
  split <;> omega

theorem truncate_le_truncate {a b : Instant} (hab : a ≤ b) : a.truncate ≤ b.truncate := by
  rcases hab with hearlier | ⟨hsecond, hnanos⟩
  · exact Or.inl hearlier
  · refine Or.inr ⟨hsecond, ?_⟩
    show (if a.nanos < second then 0 else second) ≤ if b.nanos < second then 0 else second
    split <;> split <;> omega

@[simp] theorem truncate_truncate (t : Instant) : t.truncate.truncate = t.truncate := by
  refine ext_iff'.2 ⟨rfl, ?_⟩
  show (if (if t.nanos < second then 0 else second) < second then 0 else second) = _
  by_cases h : t.nanos < second
  · simp [h, truncate, show 0 < second by decide]
  · simp [h, truncate]

/-! ## Civil time -/

def date (t : Instant) : Calendar.Date :=
  .ofDays (t.unix / 86400 + Calendar.epochDays)

/-- Seconds since midnight, a leap second not counted. -/
def secondOfDay (t : Instant) : Nat :=
  (t.unix % 86400).toNat

def hour (t : Instant) : Nat := t.secondOfDay / 3600

def minute (t : Instant) : Nat := t.secondOfDay / 60 % 60

/-- The second of the minute, 60 in a leap second. -/
def secondOfMinute (t : Instant) : Nat :=
  t.secondOfDay % 60 + t.nanos / second

/-- The nanoseconds after the last whole second, leap seconds counted as such. -/
def fraction (t : Instant) : Nat :=
  t.nanos % second

end Instant

/-! ## Wall clocks -/

structure WallClock where
  date : Calendar.Date
  hour : Nat
  minute : Nat
  second : Nat
  fraction : Nat := 0
deriving DecidableEq, Repr

namespace WallClock

def IsValid (w : WallClock) : Prop :=
  w.date.IsValid ∧ -262143 ≤ w.date.year ∧ w.date.year ≤ 262142 ∧
    w.hour ≤ 23 ∧ w.minute ≤ 59 ∧ w.second ≤ 60

instance (w : WallClock) : Decidable w.IsValid := by
  unfold IsValid; infer_instance

/-- The instant at which a clock `offset` seconds ahead of UTC shows `w`; a second 60 prolongs the
second 59 before it. -/
def toInstant? (w : WallClock) (offset : Int) : Option Instant :=
  if w.IsValid then
    let day := (w.date.toDays - Calendar.epochDays) * 86400
    let unix := day + w.hour * 3600 + w.minute * 60 + (min w.second 59 : Nat) - offset
    Instant.ofUnix? unix (if w.second = 60 then w.fraction + Instant.second else w.fraction)
  else none

end WallClock
end PointInTime
