import PointInTime.Proofs.Instant.Stored

/-!
# Instants in RFC 3339 are read back

An instant has many texts in RFC 3339: it may be shown by any clock that is whole minutes ahead of
UTC or behind it, with more or fewer fraction digits, and two marks may be written in several ways.

Main statements: each of the texts is read as the instant, if it has fraction digits enough; and
none of them is one of the plain form, so that it does not matter which is tried first.
-/

namespace PointInTime
namespace Instant

open Text

/-!
## What is written
-/

/-- The first digits of a number of nanoseconds; behind the ninth there are zeros. -/
def fractionDigits (k nanos : Nat) : List Char :=
  padded (min k 9) (nanos / 10 ^ (9 - k)) ++ List.replicate (k - 9) '0'

def fractionPart (k nanos : Nat) : List Char :=
  if k = 0 then [] else '.' :: fractionDigits k nanos

def offsetText (sign : Char) (minutes : Nat) : List Char :=
  sign :: padded 2 (minutes / 60) ++ ':' :: padded 2 (minutes % 60)

/-- An offset of less than a day.  UTC has a letter besides, and either sign will do for it. -/
inductive IsOffset : Int → List Char → Prop where
  | utc {c : Char} : c ∈ ['Z', 'z'] → IsOffset 0 [c]
  | ahead {minutes : Nat} : minutes < 1440 → IsOffset minutes (offsetText '+' minutes)
  | behind {minutes : Nat} {sign : Char} : minutes < 1440 → sign ∈ ['-', '\u2212'] →
      IsOffset (-minutes) (offsetText sign minutes)

/-- A clock's date and time with `k` fraction digits. -/
def clockText (w : WallClock) (mark : Char) (k : Nat) : List Char :=
  padded 4 w.date.year.natAbs ++ '-' :: padded 2 w.date.month ++ '-' :: padded 2 w.date.day ++
    mark :: padded 2 w.hour ++ ':' :: padded 2 w.minute ++ ':' :: padded 2 w.second ++
    fractionPart k w.fraction

/-- The texts of an instant: a clock shows it in a year of four digits, and no fraction digit is
left out that is not a zero. -/
inductive IsRfc3339Text (t : Instant) : List Char → Prop where
  | shown {minutes : Int} {mark : Char} {k : Nat} {offset : List Char} :
      0 ≤ (t.wallClock minutes).date.year → (t.wallClock minutes).date.year ≤ 9999 →
      mark ∈ ['T', 't', ' '] → t.fraction % 10 ^ (9 - k) = 0 → IsOffset minutes offset →
      IsRfc3339Text t (clockText (t.wallClock minutes) mark k ++ offset)

/-!
## Reading it
-/

theorem number?_padded_of_lt {width n : Nat} (hwidth : 0 < width) (hn : n < 10 ^ width)
    (rest : List Char) : number? width width (padded width n ++ rest) = some (n, rest) := by
  have hlength := length_padded_of_lt hwidth hn
  rw [number?_append (fun _ => isDigit_of_mem_padded) (by omega) (by omega) (Or.inl hlength),
    ofDigitChars_padded]

theorem isDigit_of_mem_fractionDigits {k nanos : Nat} {c : Char}
    (hc : c ∈ fractionDigits k nanos) : c.isDigit = true := by
  rcases List.mem_append.mp hc with hdigit | hzero
  · exact isDigit_of_mem_padded hdigit
  · rw [(List.mem_replicate.mp hzero).2]
    decide

theorem nanosOf_fractionDigits {k nanos : Nat} (hk : 0 < k) (hnanos : nanos < second)
    (hexact : nanos % 10 ^ (9 - k) = 0) : nanosOf (fractionDigits k nanos) = nanos := by
  unfold fractionDigits
  by_cases hnine : k ≤ 9
  · have hpowers : 10 ^ (9 - k) * 10 ^ k = second := by
      rw [← Nat.pow_add, Nat.sub_add_cancel hnine]
      rfl
    have hsmall : nanos / 10 ^ (9 - k) < 10 ^ k := by
      apply Nat.div_lt_of_lt_mul
      rw [hpowers]
      exact hnanos
    rw [Nat.min_eq_left hnine, Nat.sub_eq_zero_of_le hnine, List.replicate_zero, List.append_nil,
      nanosOf_padded hk hnine hsmall]
    exact Nat.div_mul_cancel (Nat.dvd_of_mod_eq_zero hexact)
  · have hlong : 9 ≤ k := by omega
    have hlength : (padded 9 nanos).length = 9 := length_padded_of_lt (by decide) hnanos
    rw [Nat.min_eq_right hlong, Nat.sub_eq_zero_of_le hlong, Nat.pow_zero, Nat.div_one, nanosOf,
      List.append_assoc, List.take_left' hlength, ofDigitChars_padded]

theorem fraction?_fractionPart {k nanos : Nat} (hnanos : nanos < second)
    (hexact : nanos % 10 ^ (9 - k) = 0) {c : Char} (hc : c.isDigit = false) (hpoint : c ≠ '.')
    (rest : List Char) :
    fraction? (fractionPart k nanos ++ c :: rest) = some (nanos, c :: rest) := by
  unfold fractionPart
  by_cases hk : k = 0
  · have hzero : nanos = 0 := by
      rw [hk] at hexact
      exact (Nat.mod_eq_of_lt hnanos).symm.trans hexact
    rw [if_pos hk, hzero, List.nil_append]
    unfold fraction?
    split
    · rename_i hs
      exact absurd (List.cons.inj hs).1 hpoint
    · rfl
  · have hne : fractionDigits k nanos ≠ [] := by
      have hwidth : 0 < min k 9 := by omega
      intro hnil
      exact padded_ne_nil hwidth _ (List.append_eq_nil_iff.mp hnil).1
    rw [if_neg hk, List.cons_append,
      fraction?_digits (fun _ => isDigit_of_mem_fractionDigits) hne hc,
      nanosOf_fractionDigits (Nat.pos_of_ne_zero hk) hnanos hexact]

theorem offset?_offsetText {sign : Char} {factor : Int} {minutes : Nat} (hminutes : minutes < 1440)
    (hsign : ∀ s, offsetSign? (sign :: s) = some (factor, s)) (hupper : sign ≠ 'Z')
    (hlower : sign ≠ 'z') :
    offset? (expect? ':') (offsetText sign minutes) = some (factor * (60 * minutes), []) := by
  have hhours : minutes / 60 < 10 ^ 2 := by omega
  have hrest : minutes % 60 < 10 ^ 2 := by omega
  have hlast : number? 2 2 (padded 2 (minutes % 60)) = some (minutes % 60, []) := by
    simpa using number?_padded_of_lt (by decide) hrest []
  have hbounds : minutes % 60 ≤ 59 ∧ minutes / 60 ≤ 23 := by omega
  have hseconds : (minutes / 60 * 3600 + minutes % 60 * 60 : Nat) = (60 * minutes : Int) := by
    omega
  unfold offset? offsetText
  split
  · rename_i hs
    exact absurd (List.cons.inj hs).1 hupper
  · rename_i hs
    exact absurd (List.cons.inj hs).1 hlower
  · simp only [List.cons_append, Option.bind_eq_bind, hsign, Option.bind_some,
      number?_padded_of_lt (by decide : 0 < 2) hhours, expect?_cons, hlast, hbounds, and_self,
      if_true, hseconds]

theorem IsOffset.offset? {minutes : Int} {s : List Char} (h : IsOffset minutes s) :
    offset? (expect? ':') s = some (60 * minutes, []) := by
  cases h with
  | utc hc =>
      simp only [List.mem_cons, List.not_mem_nil, or_false] at hc
      rcases hc with rfl | rfl <;> rfl
  | ahead hminutes =>
      rw [offset?_offsetText hminutes (fun _ => rfl) (by decide) (by decide), Int.one_mul]
  | behind hminutes hsign =>
      simp only [List.mem_cons, List.not_mem_nil, or_false] at hsign
      rcases hsign with rfl | rfl
      · rw [offset?_offsetText hminutes (fun _ => rfl) (by decide) (by decide)]
        congr 2
        omega
      · rw [offset?_offsetText hminutes (fun _ => rfl) (by decide) (by decide)]
        congr 2
        omega

theorem IsOffset.eq_cons {minutes : Int} {s : List Char} (h : IsOffset minutes s) :
    ∃ c rest, s = c :: rest ∧ c.isDigit = false ∧ c ≠ '.' := by
  cases h with
  | utc hc =>
      simp only [List.mem_cons, List.not_mem_nil, or_false] at hc
      rcases hc with rfl | rfl
      · exact ⟨'Z', [], rfl, by decide, by decide⟩
      · exact ⟨'z', [], rfl, by decide, by decide⟩
  | ahead _ => exact ⟨'+', _, rfl, by decide, by decide⟩
  | behind _ hsign =>
      simp only [List.mem_cons, List.not_mem_nil, or_false] at hsign
      rcases hsign with rfl | rfl
      · exact ⟨'-', _, rfl, by decide, by decide⟩
      · exact ⟨'\u2212', _, rfl, by decide, by decide⟩

theorem dateTimeMark?_cons {mark : Char} (hmark : mark ∈ ['T', 't', ' ']) (s : List Char) :
    dateTimeMark? (mark :: s) = some s := by
  simp only [List.mem_cons, List.not_mem_nil, or_false] at hmark
  rcases hmark with rfl | rfl | rfl <;> rfl

theorem ofRfc3339?_clockText {w : WallClock} {mark : Char} {k : Nat} {minutes : Int}
    {offset : List Char} (hvalid : w.IsValid) (hfirst : 0 ≤ w.date.year)
    (hlast : w.date.year ≤ 9999) (hmark : mark ∈ ['T', 't', ' ']) (hsmall : w.fraction < second)
    (hexact : w.fraction % 10 ^ (9 - k) = 0) (hoffset : IsOffset minutes offset) :
    ofRfc3339? (clockText w mark k ++ offset) = w.toInstant? (60 * minutes) := by
  rcases hvalid.fields_lt with ⟨hmonth, hday, hhour, hminute, hsecond⟩
  have hyear : w.date.year.natAbs < 10 ^ 4 := by omega
  have hsign : (w.date.year.natAbs : Int) = w.date.year := by omega
  have hfraction : fraction? (fractionPart k w.fraction ++ offset) =
      some (w.fraction, offset) := by
    rcases hoffset.eq_cons with ⟨c, rest, rfl, hdigit, hpoint⟩
    exact fraction?_fractionPart hsmall hexact hdigit hpoint rest
  have hwidth : 0 < 2 := by decide
  unfold ofRfc3339? clockText
  simp only [List.append_assoc, List.cons_append, Option.bind_eq_bind, Option.bind_some,
    number?_padded_of_lt (by decide : 0 < 4) hyear, expect?_cons, dateTimeMark?_cons hmark,
    number?_padded_of_lt hwidth hmonth, number?_padded_of_lt hwidth hday,
    number?_padded_of_lt hwidth hhour, number?_padded_of_lt hwidth hminute,
    number?_padded_of_lt hwidth hsecond, hfraction, hoffset.offset?, if_true, hsign]

theorem IsRfc3339Text.ofRfc3339? {t : Instant} {s : List Char} (h : IsRfc3339Text t s) :
    ofRfc3339? s = some t := by
  cases h with
  | @shown minutes mark k offset hfirst hlast hmark hexact hoffset =>
      have hvalid : (t.wallClock minutes).IsValid := isValid_wallClock t (by omega) (by omega)
      have hsmall : t.fraction < second := Nat.mod_lt _ (by decide)
      rw [ofRfc3339?_clockText hvalid hfirst hlast hmark hsmall hexact hoffset]
      exact (toInstant?_wallClock t hvalid t.fraction).trans (ofUnix?_fraction t)

theorem IsOffset.trimEnd_append {minutes : Int} {offset : List Char} (h : IsOffset minutes offset)
    (s : List Char) : trimEnd (s ++ offset) = s ++ offset := by
  have hsigned (sign : Char) (n : Nat) :
      trimEnd (s ++ offsetText sign n) = s ++ offsetText sign n := by
    unfold offsetText
    rw [← List.append_assoc]
    exact trimEnd_append_padded (by decide) _ ':' (n % 60)
  cases h with
  | utc hc =>
      simp only [List.mem_cons, List.not_mem_nil, or_false] at hc
      rcases hc with rfl | rfl
      · exact trimEnd_concat_of_not_blank (by decide) s
      · exact trimEnd_concat_of_not_blank (by decide) s
  | ahead _ => exact hsigned '+' _
  | behind _ _ => exact hsigned _ _

theorem IsRfc3339Text.trim_eq {t : Instant} {s : List Char} (h : IsRfc3339Text t s) :
    trim s = s := by
  cases h with
  | @shown minutes mark k offset _ _ _ _ hoffset =>
      have hstart : trimStart (clockText (t.wallClock minutes) mark k ++ offset) =
          clockText (t.wallClock minutes) mark k ++ offset := by
        unfold clockText
        simp only [List.append_assoc]
        exact trimStart_padded (by decide) _ _
      rw [trim, hstart, hoffset.trimEnd_append]

/-!
## No text of both forms
-/

theorem exists_digit_of_number? {k : Nat} {s : List Char} {x : Nat × List Char}
    (h : number? (k + 1) (k + 1) s = some x) : ∃ c rest, s = c :: rest ∧ c.isDigit = true := by
  cases s with
  | nil => simp [number?, takeDigits] at h
  | cons c rest =>
      cases hc : c.isDigit with
      | true => exact ⟨c, rest, rfl, hc⟩
      | false => simp [number?, takeDigits, hc] at h

theorem number?_of_le {least least' most : Nat} {s : List Char} {x : Nat × List Char}
    (hle : least' ≤ least) (h : number? least most s = some x) :
    number? least' most s = some x := by
  unfold number? at h ⊢
  simp only at h ⊢
  split at h
  · rename_i hdigits
    rw [if_pos (Nat.le_trans hle hdigits)]
    exact h
  · cases h

theorem year?_of_number? {s rest : List Char} {n : Nat} (h : number? 4 4 s = some (n, rest)) :
    year? s = some ((n : Int), rest) := by
  rcases exists_digit_of_number? h with ⟨c, s', rfl, hc⟩
  rw [year?_of_isDigit hc, number?_of_le (by decide) h, Option.map_some]

theorem trimStart_of_number? {s : List Char} {x : Nat × List Char}
    (h : number? 2 2 s = some x) : trimStart s = s := by
  rcases exists_digit_of_number? h with ⟨c, s', rfl, hc⟩
  exact trimStart_cons_of_not_blank (isBlank_eq_false_of_isDigit hc) s'

theorem twoDigits?_of_number? {s : List Char} {x : Nat × List Char}
    (h : number? 2 2 s = some x) : twoDigits? s = some x := by
  rw [twoDigits?, trimStart_of_number? h]
  exact number?_of_le (by decide) h

theorem dateTimeMark?_eq_some {s rest : List Char} (h : dateTimeMark? s = some rest) :
    s = 'T' :: rest ∨ s = 't' :: rest ∨ s = ' ' :: rest := by
  unfold dateTimeMark? at h
  split at h
  · exact Or.inl (congrArg _ (Option.some.inj h))
  · exact Or.inr (Or.inl (congrArg _ (Option.some.inj h)))
  · exact Or.inr (Or.inr (congrArg _ (Option.some.inj h)))
  · cases h

/-- The two forms are read alike up to the day.  A letter behind it ends the plain form, and a blank
leads on to the second, where only the plain form may end. -/
theorem ofPlain?_eq_none {s : List Char} {t : Instant} (h : ofRfc3339? s = some t) :
    ofPlain? s = none := by
  unfold ofRfc3339? at h
  simp only [Option.bind_eq_bind, Option.bind_eq_some_iff, Prod.exists] at h
  rcases h with ⟨year, s₁, hyear, s₂, hdash, month, s₃, hmonth, s₄, hdash', day, s₅, hday, s₆,
    hmark, hour, s₇, hhour, s₈, hcolon, minute, s₉, hminute, s₁₀, hcolon', sec, s₁₁, hsecond,
    fraction, s₁₂, hfraction, offset, s₁₃, hoffset, _⟩
  have hrest : s₁₁ ≠ [] := by
    rintro rfl
    cases hfraction
    cases hoffset
  unfold ofPlain?
  simp only [Option.bind_eq_bind, Option.bind_some, year?_of_number? hyear, hdash,
    twoDigits?_of_number? hmonth, hdash', twoDigits?_of_number? hday]
  rcases dateTimeMark?_eq_some hmark with rfl | rfl | rfl
  · rfl
  · rfl
  · have hblank : trimStart (' ' :: s₆) = s₆ := trimStart_of_number? hhour
    simp only [hblank, twoDigits?_of_number? hhour, Option.bind_some, hcolon,
      twoDigits?_of_number? hminute, hcolon', twoDigits?_of_number? hsecond, hrest, if_false]

end Instant
end PointInTime
