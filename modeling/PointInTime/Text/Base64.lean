/-!
# Base64

Bytes in stored objects are texts in base64, kept as they are.  This module tells which texts are
the canonical form of some bytes: groups of four, padded at the end, unused bits zero.
-/

namespace PointInTime
namespace Text
namespace Base64

def digit? (c : Char) : Option Nat :=
  let n := c.toNat
  if 65 ≤ n ∧ n ≤ 90 then some (n - 65)
  else if 97 ≤ n ∧ n ≤ 122 then some (n - 71)
  else if 48 ≤ n ∧ n ≤ 57 then some (n + 4)
  else if c = '+' then some 62
  else if c = '/' then some 63
  else none

/-- Whether a character is in the alphabet and its last bits, below `unit`, are zero. -/
def isDigit (unit : Nat) (c : Char) : Bool :=
  match digit? c with
  | some n => n % unit == 0
  | none => false

def isCanonical : List Char → Bool
  | [] => true
  | [a, b, '=', '='] => isDigit 1 a && isDigit 16 b
  | [a, b, c, '='] => isDigit 1 a && isDigit 1 b && isDigit 4 c
  | a :: b :: c :: d :: rest =>
      isDigit 1 a && isDigit 1 b && isDigit 1 c && isDigit 1 d && isCanonical rest
  | _ => false

end Base64
end Text
end PointInTime
