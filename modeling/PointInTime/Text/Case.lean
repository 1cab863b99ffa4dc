import PointInTime.Text.Case.Data

/-!
# Lower case

The lower case of a text, letter by letter, with the two letters that need more than a table: the
dotted capital I becomes two characters, and a capital sigma at the end of a word takes the final
form.
-/

namespace PointInTime
namespace Text
namespace Case

def lowerLetter (c : Char) : Char :=
  let n := c.toNat
  match capitals.find? fun (first, last, step, _) =>
      first ≤ n && n ≤ last && (n - first) % step == 0 with
  | some (_, _, _, shift) => Char.ofNat ((n : Int) + shift).toNat
  | none => c

def inRanges (ranges : List (Nat × Nat)) (c : Char) : Bool :=
  ranges.any fun (first, last) => first ≤ c.toNat && c.toNat ≤ last

/-- Whether a letter with case comes next, marks passed over. -/
def letterFollows (s : List Char) : Bool :=
  match s.dropWhile (inRanges marks) with
  | c :: _ => inRanges letters c
  | [] => false

/-- One character of a text in lower case, given what stands before it, in reverse, and after. -/
def lowerChar (before : List Char) (c : Char) (after : List Char) : List Char :=
  if c = 'Σ' then
    if letterFollows before && !letterFollows after then ['ς'] else ['σ']
  else if c = 'İ' then ['i', '\u0307']
  else if c.toNat < 0x80 then [c.toLower]
  else [lowerLetter c]

def lowerFrom (before : List Char) : List Char → List Char
  | [] => []
  | c :: after => lowerChar before c after ++ lowerFrom (c :: before) after

end Case

def lowercase (s : List Char) : List Char :=
  Case.lowerFrom [] s

end Text
end PointInTime
