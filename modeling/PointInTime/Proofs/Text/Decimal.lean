import PointInTime.Proofs.Text.Blank
import PointInTime.Text.Decimal

/-!
# Numerals

A whole text is read as a number exactly if it is a numeral of that number, whatever zeros the
numeral begins with, and the number is below the bound.
-/

namespace PointInTime
namespace Text

def IsDecimal (n : Nat) (digits : List Char) : Prop :=
  digits ≠ [] ∧ (∀ c ∈ digits, c.isDigit = true) ∧ Nat.ofDigitChars 10 digits 0 = n

/-- Digits, with or without a plus sign in front. -/
def IsNumeral (n : Nat) (s : List Char) : Prop :=
  ∃ digits, (s = digits ∨ s = '+' :: digits) ∧ IsDecimal n digits

theorem isDecimal_toDigits (n : Nat) : IsDecimal n (Nat.toDigits 10 n) := by
  refine ⟨Nat.toDigits_ne_nil, ?_, ?_⟩
  · intro c hc
    exact Nat.isDigit_of_mem_toDigits (by decide) (by decide) hc
  · exact Nat.ofDigitChars_toDigits (by decide) (by decide)

theorem isNumeral_plus {n : Nat} {s : List Char} : IsNumeral n ('+' :: s) ↔ IsDecimal n s := by
  constructor
  · intro h
    rcases h with ⟨digits, hs | hs, hn⟩
    · have hplus : '+'.isDigit = true := hn.2.1 '+' (by rw [← hs]; exact List.mem_cons_self)
      exact absurd hplus (by decide)
    · rw [(List.cons.inj hs).2]
      exact hn
  · intro h
    exact ⟨s, Or.inr rfl, h⟩

theorem isNumeral_of_no_plus {n : Nat} {s : List Char} (hs : ∀ rest, s ≠ '+' :: rest) :
    IsNumeral n s ↔ IsDecimal n s := by
  constructor
  · intro h
    rcases h with ⟨digits, rfl | h, hn⟩
    · exact hn
    · exact absurd h (hs digits)
  · intro h
    exact ⟨s, Or.inl rfl, h⟩

theorem numeral?_eq_some_iff {bound n : Nat} {s : List Char} :
    numeral? bound s = some n ↔ IsNumeral n s ∧ n < bound := by
  have hread : ∀ digits : List Char,
      (if digits ≠ [] ∧ digits.all Char.isDigit then
          if Nat.ofDigitChars 10 digits 0 < bound then some (Nat.ofDigitChars 10 digits 0) else none
        else none) = some n ↔ IsDecimal n digits ∧ n < bound := by
    intro digits
    simp only [Option.ite_none_right_eq_some, List.all_eq_true, IsDecimal, Option.some.injEq]
    constructor
    · intro h
      rcases h with ⟨⟨hne, hdigits⟩, hbound, rfl⟩
      exact ⟨⟨hne, hdigits, rfl⟩, hbound⟩
    · intro h
      rcases h with ⟨⟨hne, hdigits, rfl⟩, hbound⟩
      exact ⟨⟨hne, hdigits⟩, hbound, rfl⟩
  -- What is read is what follows a plus sign, or else the text itself.
  by_cases hs : ∃ rest, s = '+' :: rest
  · rcases hs with ⟨rest, rfl⟩
    rw [isNumeral_plus]
    exact hread rest
  · have hno : ∀ rest, s ≠ '+' :: rest := fun rest h => hs ⟨rest, h⟩
    rw [isNumeral_of_no_plus hno, ← hread s]
    simp only [numeral?]

theorem IsDecimal.trimEnd_append {n : Nat} {digits : List Char} (h : IsDecimal n digits)
    (s : List Char) : trimEnd (s ++ digits) = s ++ digits :=
  trimEnd_append_digits h.1 h.2.1 s

/-- A numeral begins and ends with what is not blank. -/
theorem IsNumeral.trim_eq {n : Nat} {s : List Char} (h : IsNumeral n s) : trim s = s := by
  rcases h with ⟨digits, hs | hs, hn⟩
  · subst hs
    cases s with
    | nil => rfl
    | cons c digits =>
        rw [trim, trimStart_cons_of_not_blank
          (isBlank_eq_false_of_isDigit (hn.2.1 c List.mem_cons_self))]
        exact hn.trimEnd_append []
  · subst hs
    rw [trim, trimStart_cons_of_not_blank (by decide)]
    exact hn.trimEnd_append ['+']

end Text
end PointInTime
