import Mathlib.Algebra.Group.Nat.Defs
import PointInTime.Instant.Rfc3339
import PointInTime.Proofs.Calendar.Date
import PointInTime.Proofs.Text.Blank

/-!
# The plain form is read back

Main statement: the plain form of an instant is read as the start of the second it lies in, for all
instants there are.  Leap seconds show as second 60 and are read as such, and years with a sign are
read by their sign.
-/

namespace PointInTime

/-- Every number of a clock but the year has two digits. -/
theorem WallClock.IsValid.fields_lt {w : WallClock} (hw : w.IsValid) :
    w.date.month < 100 ∧ w.date.day < 100 ∧ w.hour < 100 ∧ w.minute < 100 ∧ w.second < 100 := by
  obtain ⟨⟨_, hmonth, _, hday⟩, _, _, hhour, hminute, hsecond⟩ := hw
  have hlength := Calendar.monthLength_le w.date.year w.date.month
  refine ⟨?_, ?_, ?_, ?_, ?_⟩ <;> omega

namespace Instant

open Text

/-!
## What a wall clock shows
-/

/-- What clocks show that are some minutes ahead of UTC. -/
def wallClock (t : Instant) (minutes : Int) : WallClock where
  date := .ofDays ((t.unix + 60 * minutes) / 86400 + Calendar.epochDays)
  hour := ((t.unix + 60 * minutes) % 86400).toNat / 3600
  minute := ((t.unix + 60 * minutes) % 86400).toNat / 60 % 60
  second := ((t.unix + 60 * minutes) % 86400).toNat % 60 + t.nanos / second
  fraction := t.fraction

def shown (t : Instant) : WallClock :=
  ⟨t.date, t.hour, t.minute, t.secondOfMinute, 0⟩

theorem year_bounds (t : Instant) : -262143 ≤ t.date.year ∧ t.date.year ≤ 262142 := by
  obtain ⟨hfirst, hlast, _, _⟩ := t.isValid
  unfold firstSecond at hfirst
  unfold lastSecond at hlast
  apply Calendar.Date.yearOfDays_mem
  · have hday : Calendar.daysBeforeYear (-262143) = -95745764 := by decide
    rw [hday, Calendar.epochDays]
    omega
  · have hday : Calendar.daysBeforeYear (262142 + 1) = 95745765 := by decide
    rw [hday, Calendar.epochDays]
    omega

theorem isValid_wallClock (t : Instant) {minutes : Int}
    (hfirst : -262143 ≤ (t.wallClock minutes).date.year)
    (hlast : (t.wallClock minutes).date.year ≤ 262142) : (t.wallClock minutes).IsValid := by
  obtain ⟨_, _, hnanos, hleap⟩ := t.isValid
  refine ⟨Calendar.Date.isValid_ofDays _, hfirst, hlast, ?_, ?_, ?_⟩
  · simp only [wallClock]
    omega
  · simp only [wallClock]
    omega
  · simp only [wallClock]
    unfold second at hnanos hleap ⊢
    omega

/-- A clock ahead of UTC, with any part of a second; a leap second is one at every whole minute
ahead. -/
theorem toInstant?_wallClock (t : Instant) {minutes : Int}
    (hvalid : (t.wallClock minutes).IsValid) (fraction : Nat) :
    WallClock.toInstant? { t.wallClock minutes with fraction := fraction } (60 * minutes) =
      ofUnix? t.unix (if t.nanos < second then fraction else fraction + second) := by
  obtain ⟨_, _, hnanos, hleap⟩ := t.isValid
  have hday : (t.wallClock minutes).date.toDays =
      (t.unix + 60 * minutes) / 86400 + Calendar.epochDays := Calendar.Date.toDays_ofDays _
  have hunix : ((t.wallClock minutes).date.toDays - Calendar.epochDays) * 86400 +
      (t.wallClock minutes).hour * 3600 + (t.wallClock minutes).minute * 60 +
        (min (t.wallClock minutes).second 59 : Nat) - 60 * minutes = t.unix := by
    rw [hday]
    simp only [wallClock]
    unfold second at hnanos hleap ⊢
    omega
  have hpart : (if (t.wallClock minutes).second = 60 then fraction + second else fraction) =
      if t.nanos < second then fraction else fraction + second := by
    have hsixty : (t.wallClock minutes).second = 60 ↔ ¬ t.nanos < second := by
      simp only [wallClock]
      unfold second at hnanos hleap ⊢
      omega
    simp only [hsixty, ite_not]
  have hvalid' : WallClock.IsValid { t.wallClock minutes with fraction := fraction } := hvalid
  unfold WallClock.toInstant?
  rw [if_pos hvalid']
  show ofUnix? (((t.wallClock minutes).date.toDays - Calendar.epochDays) * 86400 +
    (t.wallClock minutes).hour * 3600 + (t.wallClock minutes).minute * 60 +
      (min (t.wallClock minutes).second 59 : Nat) - 60 * minutes)
      (if (t.wallClock minutes).second = 60 then fraction + second else fraction) = _
  rw [hunix, hpart]

/-- In UTC itself. -/
theorem wallClock_zero (t : Instant) :
    t.wallClock 0 = ⟨t.date, t.hour, t.minute, t.secondOfMinute, t.fraction⟩ := by
  simp only [wallClock, date, hour, minute, secondOfMinute, secondOfDay, Int.mul_zero, Int.add_zero]

theorem isValid_shown (t : Instant) : t.shown.IsValid := by
  obtain ⟨hfirst, hlast⟩ := year_bounds t
  have hvalid : (t.wallClock 0).IsValid := by
    apply isValid_wallClock
    · rw [wallClock_zero]
      exact hfirst
    · rw [wallClock_zero]
      exact hlast
  rw [wallClock_zero] at hvalid
  exact hvalid

theorem fields_lt (t : Instant) :
    t.date.month < 100 ∧ t.date.day < 100 ∧ t.hour < 100 ∧ t.minute < 100 ∧
      t.secondOfMinute < 100 :=
  (isValid_shown t).fields_lt

/-- A clock that shows an instant, with any part of a second. -/
theorem toInstant?_of_fraction (t : Instant) (fraction : Nat) :
    WallClock.toInstant? ⟨t.date, t.hour, t.minute, t.secondOfMinute, fraction⟩ 0 =
      ofUnix? t.unix (if t.nanos < second then fraction else fraction + second) := by
  have hvalid : (t.wallClock 0).IsValid := by
    rw [wallClock_zero]
    exact isValid_shown t
  have hclock := toInstant?_wallClock t hvalid fraction
  rw [wallClock_zero] at hclock
  exact hclock

theorem toInstant?_shown (t : Instant) : t.shown.toInstant? 0 = some t.truncate := by
  have hclock := toInstant?_of_fraction t 0
  rw [Nat.zero_add] at hclock
  exact hclock.trans (dif_pos t.truncate.isValid)

/-!
## Numbers and signs

A number is read to its end when what follows it is no digit, or when it has all the digits that
may be read.
-/

theorem number?_padded {least most width n : Nat} {c : Char} {rest : List Char}
    (hleast : least ≤ (padded width n).length) (hmost : (padded width n).length ≤ most)
    (hc : c.isDigit = false) :
    number? least most (padded width n ++ c :: rest) = some (n, c :: rest) := by
  have hstop : ∀ d, (c :: rest).head? = some d → d.isDigit = false := by
    intro d hd
    rw [← Option.some.inj hd]
    exact hc
  rw [number?_append (fun _ => isDigit_of_mem_padded) hleast hmost (Or.inr hstop),
    ofDigitChars_padded]

theorem length_padded_of_lt {width n : Nat} (hwidth : 0 < width) (hn : n < 10 ^ width) :
    (padded width n).length = width := by
  have hdigits := (Nat.length_toDigits_le_iff (b := 10) (k := width) (by decide) hwidth).mpr hn
  rw [length_padded]
  exact Nat.max_eq_left hdigits

theorem length_padded_two {n : Nat} (hn : n < 100) : (padded 2 n).length = 2 :=
  length_padded_of_lt (by decide) hn

theorem padded_eq_cons {width : Nat} (hwidth : 0 < width) (n : Nat) :
    ∃ c cs, padded width n = c :: cs ∧ c.isDigit = true := by
  have hlength := length_padded width n
  cases hp : padded width n with
  | nil =>
      rw [hp, List.length_nil] at hlength
      omega
  | cons c cs =>
      exact ⟨c, cs, rfl, isDigit_of_mem_padded (by rw [hp]; exact List.mem_cons_self)⟩

theorem padded_ne_nil {width : Nat} (hwidth : 0 < width) (n : Nat) : padded width n ≠ [] := by
  rcases padded_eq_cons hwidth n with ⟨c, cs, hp, _⟩
  rw [hp]
  exact List.cons_ne_nil c cs

theorem trimStart_padded {width : Nat} (hwidth : 0 < width) (n : Nat) (rest : List Char) :
    trimStart (padded width n ++ rest) = padded width n ++ rest := by
  obtain ⟨c, cs, hp, hdigit⟩ := padded_eq_cons hwidth n
  rw [hp]
  exact trimStart_cons_of_not_blank (isBlank_eq_false_of_isDigit hdigit) _

theorem trimEnd_append_padded {width : Nat} (hwidth : 0 < width) (s : List Char) (c : Char)
    (n : Nat) : trimEnd (s ++ c :: padded width n) = s ++ c :: padded width n := by
  have hdigits : ∀ c ∈ padded width n, c.isDigit = true := fun _ => isDigit_of_mem_padded
  have h := trimEnd_append_digits (padded_ne_nil hwidth n) hdigits (s ++ [c])
  rw [List.append_assoc] at h
  exact h

theorem twoDigits?_padded {n : Nat} (hn : n < 100) (rest : List Char) :
    twoDigits? (padded 2 n ++ rest) = some (n, rest) := by
  have hlength := length_padded_two hn
  rw [twoDigits?, trimStart_padded (by decide) n,
    number?_append (fun _ => isDigit_of_mem_padded) (by omega) (by omega) (Or.inl hlength),
    ofDigitChars_padded]

/-- A year without a sign. -/
theorem year?_of_isDigit {c : Char} (hc : c.isDigit = true) (s : List Char) :
    year? (c :: s) = (number? 1 4 (c :: s)).map fun (n, rest) => ((n : Int), rest) := by
  unfold year?
  rw [trimStart_cons_of_not_blank (isBlank_eq_false_of_isDigit hc)]
  split
  · rename_i hs
    rw [(List.cons.inj hs).1] at hc
    exact absurd hc (by decide)
  · rename_i hs
    rw [(List.cons.inj hs).1] at hc
    exact absurd hc (by decide)
  · rfl

theorem year?_yearText (year : Int) (rest : List Char) :
    year? (yearText year ++ '-' :: rest) = some (year, '-' :: rest) := by
  have hhyphen : '-'.isDigit = false := by decide
  have hnumber := length_padded 4 year.natAbs
  by_cases hneg : year < 0
  · have hread : number? 1 (padded 4 year.natAbs ++ '-' :: rest).length
        (padded 4 year.natAbs ++ '-' :: rest) = some (year.natAbs, '-' :: rest) :=
      number?_padded (by omega) (by simp) hhyphen
    have hsign : -(year.natAbs : Int) = year := by omega
    simp only [yearText, hneg, if_true, List.cons_append, year?,
      trimStart_cons_of_not_blank (show isBlank '-' = false by decide), hread, Option.map_some,
      hsign]
  · by_cases hlarge : 9999 < year
    · have hread : number? 1 (padded 4 year.natAbs ++ '-' :: rest).length
          (padded 4 year.natAbs ++ '-' :: rest) = some (year.natAbs, '-' :: rest) :=
        number?_padded (by omega) (by simp) hhyphen
      have hsign : (year.natAbs : Int) = year := by omega
      simp only [yearText, hneg, hlarge, if_true, if_false, List.cons_append, year?,
        trimStart_cons_of_not_blank (show isBlank '+' = false by decide), hread, Option.map_some,
        hsign]
    · have hdigits := (Nat.length_toDigits_le_iff (b := 10) (k := 4) (by decide) (by decide)).mpr
        (show year.natAbs < 10 ^ 4 by omega)
      have hread : number? 1 4 (padded 4 year.natAbs ++ '-' :: rest) =
          some (year.natAbs, '-' :: rest) :=
        number?_padded (by omega) (by omega) hhyphen
      have hsign : (year.natAbs : Int) = year := by omega
      obtain ⟨c, cs, hp, hdigit⟩ := padded_eq_cons (show 0 < 4 by decide) year.natAbs
      rw [hp] at hread
      simp only [yearText, hneg, hlarge, if_false, hp]
      rw [List.cons_append] at hread ⊢
      simp only [year?_of_isDigit hdigit, hread, Option.map_some, hsign]

/-!
## The whole form
-/

theorem ofPlain?_plainText (t : Instant) : ofPlain? t.plainText = some t.truncate := by
  obtain ⟨hmonth, hday, hhour, hminute, hsecond⟩ := fields_lt t
  have hmonthText := twoDigits?_padded hmonth
  have hdayText := twoDigits?_padded hday
  have hhourText := twoDigits?_padded hhour
  have hminuteText := twoDigits?_padded hminute
  have hsecondText : twoDigits? (padded 2 t.secondOfMinute) = some (t.secondOfMinute, []) := by
    simpa using twoDigits?_padded hsecond []
  have hblank (rest : List Char) :
      trimStart (' ' :: (padded 2 t.hour ++ rest)) = padded 2 t.hour ++ rest :=
    trimStart_padded (by decide) t.hour rest
  unfold ofPlain? plainText
  simp only [List.append_assoc, List.cons_append, year?_yearText, Option.bind_eq_bind,
    Option.bind_some, expect?_cons, hmonthText, hdayText, hblank, hhourText, hminuteText,
    hsecondText, if_true]
  exact toInstant?_shown t

theorem trim_plainText (t : Instant) : trim t.plainText = t.plainText := by
  have hfirst (year : Int) (rest : List Char) :
      trimStart (yearText year ++ rest) = yearText year ++ rest := by
    unfold yearText
    split
    · exact trimStart_cons_of_not_blank (by decide) _
    · split
      · exact trimStart_cons_of_not_blank (by decide) _
      · exact trimStart_padded (by decide) _ _
  have hstart : trimStart t.plainText = t.plainText := by
    simp only [plainText, List.append_assoc]
    exact hfirst _ _
  rw [trim, hstart, plainText]
  exact trimEnd_append_padded (by decide) _ ':' t.secondOfMinute

theorem ofGiven?_format (t : Instant) : ofGiven? t.format.toList = some t.truncate := by
  have htext : t.format.toList = t.plainText := String.toList_ofList
  rw [htext, ofGiven?, trim_plainText, ofPlain?_plainText]
  rfl

end Instant
end PointInTime
