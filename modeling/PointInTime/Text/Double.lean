import PointInTime.Text.Decimal

/-!
# Decimal numbers and double precision

A decimal number in scientific notation is its digits and a power of ten.  Numbers of double
precision end where rounding would need a power of two that they do not have.
-/

namespace PointInTime
namespace Text

/-! ## Reading -/

def dropSign (s : List Char) : List Char :=
  match s with
  | '+' :: rest => rest
  | '-' :: rest => rest
  | _ => s

def areDigits (base : Nat) (s : List Char) : Bool :=
  s ≠ [] && s.all fun c =>
    if c.isDigit then c.toNat - 48 < base
    else if c.isAlpha then c.toLower.toNat - 87 < base
    else false

/-- An exponent: a letter, a sign if need be, and digits; nothing is the exponent 0. -/
def exponent? (s : List Char) : Option Int :=
  match s with
  | [] => some 0
  | c :: rest =>
      if c = 'e' ∨ c = 'E' then
        let ds := dropSign rest
        if areDigits 10 ds then
          let n : Int := Nat.ofDigitChars 10 ds 0
          some (if rest.head? = some '-' then -n else n)
        else none
      else none

/-- A decimal number: its digits, and the power of ten that the last of them stands for. -/
def decimal? (s : List Char) : Option (Nat × Int) :=
  let whole := s.takeWhile Char.isDigit
  let rest := s.dropWhile Char.isDigit
  let (fraction, rest) :=
    match rest with
    | '.' :: rest => (rest.takeWhile Char.isDigit, rest.dropWhile Char.isDigit)
    | _ => ([], rest)
  if whole = [] ∧ fraction = [] then none
  else
    (exponent? rest).map fun e =>
      (Nat.ofDigitChars 10 (whole ++ fraction) 0, e - fraction.length)

/-- The least number that rounds to none of the finite numbers of double precision. -/
def overflow : Nat := Nat.pow 2 1024 - Nat.pow 2 970

def isFinite (n : Nat) (exponent : Int) : Bool :=
  let magnitude := (Nat.toDigits 10 n).length + exponent
  if n = 0 ∨ magnitude < 309 then true
  else if 400 < magnitude then false
  else if 0 ≤ exponent then n * Nat.pow 10 exponent.toNat < overflow
  else n < overflow * Nat.pow 10 (-exponent).toNat

end Text
end PointInTime
