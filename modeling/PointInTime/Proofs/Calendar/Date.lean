import PointInTime.Calendar.Date

/-!
# Dates and days

Every day has a date, which is one that exists, and a date gives back the day it was found for.  So
no two days share a date.
-/

namespace PointInTime
namespace Calendar
theorem monthLength_le (year : Int) (month : Nat) : monthLength year month ≤ 31 := by
  have hall : ∀ leap, ∀ l ∈ monthLengths leap, l ≤ 31 := by decide
  unfold monthLength
  split
  · omega
  · rw [List.getD_eq_getElem?_getD]
    cases hl : (monthLengths (isLeap year))[month - 1]? with
    | none => simp
    | some l => exact hall _ l (List.mem_of_getElem? hl)

namespace Date

/-!
## Walking along lengths
-/

theorem splitDays_spec (ls : List Nat) (n : Nat) (hn : n < ls.foldr (· + ·) 0) :
    (splitDays ls n).1 < ls.length ∧
      (splitDays ls n).2 < ls.getD (splitDays ls n).1 0 ∧
      (ls.take (splitDays ls n).1).foldr (· + ·) 0 + (splitDays ls n).2 = n := by
  induction ls generalizing n with
  | nil => simp at hn
  | cons l ls ih =>
      by_cases hl : n < l
      · simp [splitDays, hl]
      · simp only [List.foldr_cons] at hn
        obtain ⟨hindex, hrest, hsum⟩ := ih (n - l) (by omega)
        refine ⟨?_, ?_, ?_⟩
        · simpa [splitDays, hl] using hindex
        · simpa [splitDays, hl] using hrest
        · simp only [splitDays, hl, if_false, List.take_succ_cons, List.foldr_cons]
          omega

/-!
## From a day to its date and back
-/

theorem dayOfYear_lt (n : Int) :
    (n - daysBeforeYear (yearOfDays n)).toNat <
      (monthLengths (isLeap (yearOfDays n))).foldr (· + ·) 0 := by
  obtain ⟨hfrom, hto⟩ := yearOfDays_bounds n
  rw [daysBeforeYear_succ] at hto
  rw [foldr_monthLengths]
  omega

theorem isValid_ofDays (n : Int) : (ofDays n).IsValid := by
  obtain ⟨hmonth, hday, _⟩ := splitDays_spec _ _ (dayOfYear_lt n)
  have htwelve : (monthLengths (isLeap (yearOfDays n))).length = 12 := rfl
  refine ⟨?_, ?_, ?_, ?_⟩
  · simp [ofDays]
  · simp only [ofDays]
    omega
  · simp [ofDays]
  · simp only [ofDays, monthLength, Nat.add_one_ne_zero, if_false, Nat.add_sub_cancel]
    omega

theorem toDays_ofDays (n : Int) : (ofDays n).toDays = n := by
  obtain ⟨_, _, hsum⟩ := splitDays_spec _ _ (dayOfYear_lt n)
  have hfrom := (yearOfDays_bounds n).1
  simp only [toDays, ofDays, daysBeforeMonth, Nat.add_sub_cancel]
  omega

/-!
## Years
-/

theorem yearOfDays_mem {n first last : Int} (hfirst : daysBeforeYear first ≤ n)
    (hlast : n < daysBeforeYear (last + 1)) : first ≤ yearOfDays n ∧ yearOfDays n ≤ last := by
  obtain ⟨hfrom, hto⟩ := yearOfDays_bounds n
  unfold daysBeforeYear at hfirst hlast hfrom hto
  constructor
  · omega
  · omega

end Date
end Calendar
end PointInTime
