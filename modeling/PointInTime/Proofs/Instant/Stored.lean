import PointInTime.Instant.Json
import PointInTime.Proofs.Instant.Plain
import PointInTime.Proofs.Json.Record

/-!
# The stored form is read back

Main statement: the form of stored objects is read as the very instant that it was written from, to
the nanosecond and through leap seconds, for all instants there are.
-/

namespace PointInTime
namespace Instant

open Text

/-!
## Fractions
-/

theorem ofDigitChars_append_zeros (ds : List Char) (k : Nat) :
    Nat.ofDigitChars 10 (ds ++ List.replicate k '0') 0 = Nat.ofDigitChars 10 ds 0 * 10 ^ k := by
  induction k with
  | zero => simp
  | succ k ih =>
      rw [List.replicate_succ', ← List.append_assoc, Nat.ofDigitChars_append, ih,
        Nat.ofDigitChars_cons, Nat.ofDigitChars_nil, Nat.pow_succ]
      rw [Nat.sub_self, Nat.add_zero, Nat.mul_comm, Nat.mul_assoc]

/-- A run of fraction digits is read to its end. -/
theorem fraction?_digits {ds : List Char} {c : Char} (hd : ∀ c ∈ ds, c.isDigit = true)
    (hne : ds ≠ []) (hc : c.isDigit = false) (rest : List Char) :
    fraction? ('.' :: (ds ++ c :: rest)) = some (nanosOf ds, c :: rest) := by
  have hstop : ∀ d, (c :: rest).head? = some d → d.isDigit = false := by
    intro d hd
    rw [← Option.some.inj hd]
    exact hc
  have htake : takeDigits (ds ++ c :: rest).length (ds ++ c :: rest) = (ds, c :: rest) :=
    takeDigits_append hd (by simp) (Or.inr hstop)
  simp only [fraction?, htake, hne, if_false]

/-- A group of fraction digits stands for that many parts of a second. -/
theorem nanosOf_padded {width n : Nat} (hwidth : 0 < width) (hsmall : width ≤ 9)
    (hn : n < 10 ^ width) : nanosOf (padded width n) = n * 10 ^ (9 - width) := by
  have hlength := length_padded_of_lt hwidth hn
  have hnine : (padded width n ++ List.replicate (9 - width) '0').length ≤ 9 := by
    rw [List.length_append, List.length_replicate]
    omega
  rw [nanosOf, hlength, List.take_of_length_le hnine, ofDigitChars_append_zeros,
    ofDigitChars_padded]

theorem fraction?_padded {width n : Nat} (hwidth : 0 < width) (hsmall : width ≤ 9)
    (hn : n < 10 ^ width) (rest : List Char) :
    fraction? ('.' :: (padded width n ++ 'Z' :: rest)) =
      some (n * 10 ^ (9 - width), 'Z' :: rest) := by
  rw [fraction?_digits (fun _ => isDigit_of_mem_padded) (padded_ne_nil hwidth n) (by decide),
    nanosOf_padded hwidth hsmall hn]

theorem fraction?_fractionText {n : Nat} (hn : n < second) :
    fraction? (fractionText n ++ ['Z']) = some (n, ['Z']) := by
  unfold second at hn
  unfold fractionText
  split
  · rename_i hzero
    rw [hzero]
    rfl
  · split
    · rename_i hmillis
      rw [List.cons_append, fraction?_padded (by decide) (by decide) (by omega)]
      congr 2
      omega
    · split
      · rename_i hmicros
        rw [List.cons_append, fraction?_padded (by decide) (by decide) (by omega)]
        congr 2
        omega
      · rw [List.cons_append, fraction?_padded (by decide) (by decide) (by omega)]
        congr 2
        omega

/-!
## The whole form
-/

/-- The part of a second that a clock does not show is its fraction. -/
theorem ofUnix?_fraction (t : Instant) :
    ofUnix? t.unix (if t.nanos < second then t.fraction else t.fraction + second) = some t := by
  obtain ⟨_, _, hnanos, _⟩ := t.isValid
  have hpart : (if t.nanos < second then t.fraction else t.fraction + second) = t.nanos := by
    unfold fraction
    unfold second at hnanos ⊢
    split <;> omega
  rw [hpart]
  exact dif_pos t.isValid

theorem toInstant?_fraction (t : Instant) :
    WallClock.toInstant? ⟨t.date, t.hour, t.minute, t.secondOfMinute, t.fraction⟩ 0 =
      some t := by
  rw [toInstant?_of_fraction, ofUnix?_fraction]

theorem ofStored?_storedText (t : Instant) : ofStored? t.storedText = some t := by
  obtain ⟨hmonth, hday, hhour, hminute, hsecond⟩ := fields_lt t
  have hmonthText := twoDigits?_padded hmonth
  have hdayText := twoDigits?_padded hday
  have hhourText := twoDigits?_padded hhour
  have hminuteText := twoDigits?_padded hminute
  have hsecondText := twoDigits?_padded hsecond
  have hhyphen (rest : List Char) : trimStart ('-' :: rest) = '-' :: rest :=
    trimStart_cons_of_not_blank (by decide) rest
  have hcolon (rest : List Char) : trimStart (':' :: rest) = ':' :: rest :=
    trimStart_cons_of_not_blank (by decide) rest
  have hmark (rest : List Char) : dateTimeMark? ('T' :: rest) = some rest := rfl
  have hfraction : fraction? (fractionText t.fraction ++ ['Z']) = some (t.fraction, ['Z']) :=
    fraction?_fractionText (Nat.mod_lt t.nanos (by decide))
  have hoffset : relaxedOffset? (trimStart ['Z']) = some (0, []) := rfl
  unfold ofStored? storedText
  simp only [List.append_assoc, List.cons_append, year?_yearText, Option.bind_eq_bind,
    Option.bind_some, expect?_cons, hhyphen, hcolon, hmark, hmonthText, hdayText, hhourText,
    hminuteText, hsecondText, hfraction, hoffset, trimStart_nil, if_true]
  exact toInstant?_fraction t

theorem ofJson?_toJson (t : Instant) : ofJson? t.toJson = some t := by
  simp only [ofJson?, toJson, Json.asString?, Option.bind_some, String.toList_ofList,
    ofStored?_storedText]

theorem optionally_toJson (o : Option Instant) :
    Json.optionally ofJson? (o.map toJson) = some o :=
  Json.optionally_map ofJson?_toJson (fun _ h => nomatch h) o

end Instant
end PointInTime
