import PointInTime.Proofs.Instant.Plain

/-!
# Instants in names

Names carry an instant as a row of digits, to the minute or to the second.  Nothing stands between
the numbers, so that they are told apart by their widths alone, and these are fixed where the year
has four digits.

Main statements: the row of digits is never longer than the longest year makes it, and with years of
four digits two instants have the same one exactly if they lie in the same minute, or second.
-/

namespace PointInTime
namespace Instant

open Text

variable {t t' : Instant}

/-!
## Seconds and minutes
-/

/-- Two instants of one second.  A leap second is not the second that it prolongs. -/
def SameSecond (t t' : Instant) : Prop :=
  t.unix = t'.unix ∧ (t.nanos < second ↔ t'.nanos < second)

/-- Two instants of one minute, to which a leap second belongs that ends it. -/
def SameMinute (t t' : Instant) : Prop :=
  t.unix / 60 = t'.unix / 60

theorem truncate_eq_truncate_iff : t.truncate = t'.truncate ↔ SameSecond t t' := by
  have hpart : ((if t.nanos < second then 0 else second) =
      if t'.nanos < second then 0 else second) ↔ (t.nanos < second ↔ t'.nanos < second) := by
    have hsecond : second ≠ 0 := by decide
    by_cases ht : t.nanos < second <;> by_cases ht' : t'.nanos < second <;>
      simp [ht, ht', hsecond, hsecond.symm]
  rw [ext_iff']
  exact and_congr_right fun _ => hpart

theorem date_eq_date_iff : t.date = t'.date ↔ t.unix / 86400 = t'.unix / 86400 := by
  constructor
  · intro hdate
    have hday := congrArg Calendar.Date.toDays hdate
    unfold date at hday
    rw [Calendar.Date.toDays_ofDays, Calendar.Date.toDays_ofDays] at hday
    omega
  · intro hday
    unfold date
    rw [hday]

theorem sameMinute_iff :
    SameMinute t t' ↔ t.date = t'.date ∧ t.hour = t'.hour ∧ t.minute = t'.minute := by
  rw [date_eq_date_iff]
  unfold SameMinute hour minute secondOfDay
  constructor
  · intro hminute
    refine ⟨?_, ?_, ?_⟩ <;> omega
  · intro hparts
    omega

theorem sameSecond_iff :
    SameSecond t t' ↔ SameMinute t t' ∧ t.secondOfMinute = t'.secondOfMinute := by
  obtain ⟨_, _, hnanos, hleap⟩ := t.isValid
  obtain ⟨_, _, hnanos', hleap'⟩ := t'.isValid
  unfold SameSecond SameMinute secondOfMinute secondOfDay
  unfold second at hnanos hleap hnanos' hleap' ⊢
  constructor
  · intro hsame
    constructor <;> omega
  · intro hsame
    constructor <;> omega

/-!
## Widths
-/

/-- The year has four digits and no sign. -/
def HasPlainYear (t : Instant) : Prop :=
  0 ≤ t.date.year ∧ t.date.year ≤ 9999

theorem yearText_of_plain {year : Int} (hfirst : 0 ≤ year) (hlast : year ≤ 9999) :
    yearText year = padded 4 year.natAbs := by
  unfold yearText
  rw [if_neg (by omega), if_neg (by omega)]

theorem length_yearText_le (t : Instant) : (yearText t.date.year).length ≤ 7 := by
  obtain ⟨hfirst, hlast⟩ := year_bounds t
  have hdigits : (Nat.toDigits 10 t.date.year.natAbs).length ≤ 6 :=
    (Nat.length_toDigits_le_iff (by decide) (by decide)).mpr (by omega)
  have hpadded := length_padded 4 t.date.year.natAbs
  unfold yearText
  split
  · rw [List.length_cons]
    omega
  · split
    · rw [List.length_cons]
      omega
    · omega

theorem length_minuteText (t : Instant) :
    t.minuteText.length = (yearText t.date.year).length + 8 := by
  obtain ⟨hmonth, hday, hhour, hminute, _⟩ := fields_lt t
  simp only [minuteText, List.length_append, length_padded_two hmonth, length_padded_two hday,
    length_padded_two hhour, length_padded_two hminute]

theorem HasPlainYear.length_minuteText (ht : t.HasPlainYear) : t.minuteText.length = 12 := by
  have hyear : t.date.year.natAbs < 10 ^ 4 := by
    have hlast := ht.2
    have hfirst := ht.1
    omega
  rw [Instant.length_minuteText, yearText_of_plain ht.1 ht.2,
    length_padded_of_lt (by decide) hyear]

theorem HasPlainYear.length_secondText (ht : t.HasPlainYear) : t.secondText.length = 14 := by
  obtain ⟨_, _, _, _, hsecond⟩ := fields_lt t
  rw [secondText, List.length_append, ht.length_minuteText, length_padded_two hsecond]

theorem mem_yearText {year : Int} {c : Char} (hc : c ∈ yearText year) :
    c = '-' ∨ c = '+' ∨ c.isDigit = true := by
  unfold yearText at hc
  split at hc
  · rcases List.mem_cons.mp hc with hsign | hdigit
    · exact Or.inl hsign
    · exact Or.inr (Or.inr (isDigit_of_mem_padded hdigit))
  · split at hc
    · rcases List.mem_cons.mp hc with hsign | hdigit
      · exact Or.inr (Or.inl hsign)
      · exact Or.inr (Or.inr (isDigit_of_mem_padded hdigit))
    · exact Or.inr (Or.inr (isDigit_of_mem_padded hc))

theorem mem_secondText {c : Char} (hc : c ∈ t.secondText) :
    c ∈ yearText t.date.year ∨ c.isDigit = true := by
  unfold secondText minuteText at hc
  simp only [List.mem_append] at hc
  rcases hc with ((((hyear | hmonth) | hday) | hhour) | hminute) | hsecond
  · exact Or.inl hyear
  · exact Or.inr (isDigit_of_mem_padded hmonth)
  · exact Or.inr (isDigit_of_mem_padded hday)
  · exact Or.inr (isDigit_of_mem_padded hhour)
  · exact Or.inr (isDigit_of_mem_padded hminute)
  · exact Or.inr (isDigit_of_mem_padded hsecond)

theorem HasPlainYear.isDigit_of_mem_secondText (ht : t.HasPlainYear) {c : Char}
    (hc : c ∈ t.secondText) : c.isDigit = true := by
  rcases mem_secondText hc with hyear | hdigit
  · rw [yearText_of_plain ht.1 ht.2] at hyear
    exact isDigit_of_mem_padded hyear
  · exact hdigit

/-!
## What is the same
-/

theorem padded_inj {width n m : Nat} (h : padded width n = padded width m) : n = m := by
  rw [← ofDigitChars_padded width n, h, ofDigitChars_padded]

/-- Two digits at the end of a text stand for one number. -/
theorem append_padded_two_inj {s s' : List Char} {n n' : Nat} (hn : n < 100) (hn' : n' < 100)
    (h : s ++ padded 2 n = s' ++ padded 2 n') : s = s' ∧ n = n' := by
  have hlength : (padded 2 n).length = (padded 2 n').length := by
    rw [length_padded_two hn, length_padded_two hn']
  rcases List.append_inj' h hlength with ⟨hs, hpadded⟩
  exact ⟨hs, padded_inj hpadded⟩

theorem yearText_inj {year year' : Int} (h : yearText year = yearText year') : year = year' := by
  have hread := year?_yearText year []
  rw [h, year?_yearText] at hread
  exact (Prod.mk.inj (Option.some.inj hread)).1.symm

theorem minuteText_eq_iff : t.minuteText = t'.minuteText ↔ SameMinute t t' := by
  obtain ⟨hmonth, hday, hhour, hminute, _⟩ := fields_lt t
  obtain ⟨hmonth', hday', hhour', hminute', _⟩ := fields_lt t'
  rw [sameMinute_iff]
  unfold minuteText
  constructor
  · intro htext
    rcases append_padded_two_inj hminute hminute' htext with ⟨htext, hminute⟩
    rcases append_padded_two_inj hhour hhour' htext with ⟨htext, hhour⟩
    rcases append_padded_two_inj hday hday' htext with ⟨htext, hday⟩
    rcases append_padded_two_inj hmonth hmonth' htext with ⟨htext, hmonth⟩
    have hdate : t.date = t'.date := by
      show Calendar.Date.mk t.date.year t.date.month t.date.day = _
      rw [yearText_inj htext, hmonth, hday]
    exact ⟨hdate, hhour, hminute⟩
  · intro hparts
    rw [hparts.1, hparts.2.1, hparts.2.2]

theorem secondText_eq_iff : t.secondText = t'.secondText ↔ SameSecond t t' := by
  obtain ⟨_, _, _, _, hsecond⟩ := fields_lt t
  obtain ⟨_, _, _, _, hsecond'⟩ := fields_lt t'
  rw [sameSecond_iff, ← minuteText_eq_iff]
  unfold secondText
  constructor
  · intro htext
    exact append_padded_two_inj hsecond hsecond' htext
  · intro hparts
    rw [hparts.1, hparts.2]

end Instant
end PointInTime
