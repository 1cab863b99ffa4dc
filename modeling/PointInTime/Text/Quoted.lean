import PointInTime.Text.Quoted.Data

/-!
# Quoted texts in messages

A text inside double quotes, with the quote, the backslash and whatever cannot be shown written as
escapes, so that a message that holds it stays on one line.
-/

namespace PointInTime
namespace Text

def hexCode (c : Char) : List Char :=
  Nat.toDigits 16 c.toNat

def isHidden (c : Char) : Bool :=
  c.toNat < 0x20 ||
    (0x7E < c.toNat && Quoted.hidden.any fun (first, last) => first ≤ c.toNat && c.toNat ≤ last)

def escapeChar (c : Char) : List Char :=
  match c with
  | '"' => ['\\', '"']
  | '\\' => ['\\', '\\']
  | '\n' => ['\\', 'n']
  | '\r' => ['\\', 'r']
  | '\t' => ['\\', 't']
  | '\x00' => ['\\', '0']
  | c =>
      if isHidden c then ['\\', 'u', '{'] ++ hexCode c ++ ['}'] else [c]

def quoted (s : String) : String :=
  String.ofList ('"' :: s.toList.flatMap escapeChar ++ ['"'])

end Text
end PointInTime
