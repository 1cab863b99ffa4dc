import PointInTime.Text.Blank

/-!
# Decimal numerals

Natural numbers are written with `Nat.toDigits 10` and read back with `Nat.ofDigitChars 10`.
This module adds zero padding, the reading of a bounded run of digits at the front of a text,
and the reading of a whole text as a number below a bound.
-/

namespace PointInTime
namespace Text

/-! ## Writing -/

/-- The digits of `n`, with zeros in front up to `width` characters. -/
def padded (width n : Nat) : List Char :=
  List.replicate (width - (Nat.toDigits 10 n).length) '0' ++ Nat.toDigits 10 n

theorem length_padded (width n : Nat) :
    (padded width n).length = max width (Nat.toDigits 10 n).length := by
  simp only [padded, List.length_append, List.length_replicate]
  omega

theorem isDigit_of_mem_padded {width n : Nat} {c : Char} (h : c ∈ padded width n) :
    c.isDigit = true := by
  simp only [padded, List.mem_append, List.mem_replicate] at h
  rcases h with ⟨_, rfl⟩ | h
  · rfl
  · exact Nat.isDigit_of_mem_toDigits (by decide) (by decide) h

theorem ofDigitChars_replicate_zero (k : Nat) (s : List Char) :
    Nat.ofDigitChars 10 (List.replicate k '0' ++ s) 0 = Nat.ofDigitChars 10 s 0 := by
  induction k with
  | zero => simp
  | succ k ih =>
      rw [List.replicate_succ, List.cons_append]
      simpa [Nat.ofDigitChars] using ih

theorem ofDigitChars_padded (width n : Nat) :
    Nat.ofDigitChars 10 (padded width n) 0 = n := by
  rw [padded, ofDigitChars_replicate_zero]
  exact Nat.ofDigitChars_toDigits (by decide) (by decide)

/-! ## Reading a run of digits -/

/-- At most `k` digits at the front of a text, and what follows them. -/
def takeDigits : Nat → List Char → List Char × List Char
  | 0, s => ([], s)
  | _ + 1, [] => ([], [])
  | k + 1, c :: s =>
      if c.isDigit then
        let (ds, rest) := takeDigits k s
        (c :: ds, rest)
      else ([], c :: s)

/-- A number of `least` to `most` digits at the front of a text, and what follows it. -/
def number? (least most : Nat) (s : List Char) : Option (Nat × List Char) :=
  let (ds, rest) := takeDigits most s
  if least ≤ ds.length then some (Nat.ofDigitChars 10 ds 0, rest) else none

theorem takeDigits_append {ds rest : List Char} {k : Nat} (hd : ∀ c ∈ ds, c.isDigit = true)
    (hk : ds.length ≤ k)
    (hr : ds.length = k ∨ ∀ c, rest.head? = some c → c.isDigit = false) :
    takeDigits k (ds ++ rest) = (ds, rest) := by
  induction ds generalizing k with
  | nil =>
      cases k with
      | zero => rfl
      | succ k =>
          cases rest with
          | nil => rfl
          | cons c rest =>
              have hc : c.isDigit = false := by
                rcases hr with h | h
                · simp at h
                · exact h c rfl
              simp [takeDigits, hc]
  | cons d ds ih =>
      cases k with
      | zero => simp at hk
      | succ k =>
          have hd' : d.isDigit = true := hd d (by simp)
          have := ih (k := k) (fun c hc => hd c (by simp [hc])) (by simpa using hk)
            (by simpa using hr)
          simp [takeDigits, hd', this]

theorem number?_append {ds rest : List Char} {least most : Nat}
    (hd : ∀ c ∈ ds, c.isDigit = true) (hl : least ≤ ds.length) (hm : ds.length ≤ most)
    (hr : ds.length = most ∨ ∀ c, rest.head? = some c → c.isDigit = false) :
    number? least most (ds ++ rest) = some (Nat.ofDigitChars 10 ds 0, rest) := by
  simp [number?, takeDigits_append hd hm hr, hl]

/-! ## Reading a whole text -/

/-- A whole text as a decimal number below `bound`: digits only, after at most one plus sign. -/
def numeral? (bound : Nat) (s : List Char) : Option Nat :=
  let ds := match s with
    | '+' :: rest => rest
    | _ => s
  if ds ≠ [] ∧ ds.all Char.isDigit then
    let n := Nat.ofDigitChars 10 ds 0
    if n < bound then some n else none
  else none

end Text
end PointInTime
