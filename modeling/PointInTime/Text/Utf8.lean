/-!
# UTF-8

The reading of bytes as text.  What is not UTF-8 is refused with the place of the first bad
sequence and its length, or without a length where the bytes end in the middle of one.
-/

namespace PointInTime
namespace Text
namespace Utf8

/-- Where the bytes are no text: after `index` good bytes, in a sequence of `length` bad ones, or
in one that was cut off. -/
structure Fault where
  index : Nat
  length : Option Nat
deriving DecidableEq, Repr

def Fault.message (f : Fault) : String :=
  match f.length with
  | some n =>
      "invalid utf-8 sequence of " ++ toString n ++ " bytes from index " ++ toString f.index
  | none => "incomplete utf-8 byte sequence from index " ++ toString f.index

def isContinuation (b : UInt8) : Bool :=
  0x80 ≤ b && b ≤ 0xBF

/-- How many bytes follow the first one of a sequence, and the range of the first of them; nothing
for a byte that begins no sequence. -/
def following? (b : UInt8) : Option (Nat × UInt8 × UInt8) :=
  if b < 0x80 then some (0, 0, 0)
  else if b < 0xC2 then none
  else if b < 0xE0 then some (1, 0x80, 0xBF)
  else if b = 0xE0 then some (2, 0xA0, 0xBF)
  else if b = 0xED then some (2, 0x80, 0x9F)
  else if b < 0xF0 then some (2, 0x80, 0xBF)
  else if b = 0xF0 then some (3, 0x90, 0xBF)
  else if b < 0xF4 then some (3, 0x80, 0xBF)
  else if b = 0xF4 then some (3, 0x80, 0x8F)
  else none

def leadBits (n : Nat) (b : UInt8) : Nat :=
  match n with
  | 0 => b.toNat
  | 1 => b.toNat % 32
  | 2 => b.toNat % 16
  | _ => b.toNat % 8

/-- Read `n` continuation bytes, of which `seen` bytes of the sequence come before. -/
def continuation (seen : Nat) : Nat → Nat → List UInt8 → Except (Option Nat) (Nat × List UInt8)
  | 0, code, rest => .ok (code, rest)
  | _ + 1, _, [] => .error none
  | n + 1, code, b :: rest =>
      if isContinuation b then continuation (seen + 1) n (code * 64 + b.toNat % 64) rest
      else .error (some seen)

def character (b : UInt8) (rest : List UInt8) : Except (Option Nat) (Nat × List UInt8) :=
  match following? b with
  | none => .error (some 1)
  | some (0, _, _) => .ok (b.toNat, rest)
  | some (n + 1, low, high) =>
      match rest with
      | [] => .error none
      | c :: rest =>
          if low ≤ c && c ≤ high then
            continuation 2 n (leadBits (n + 1) b * 64 + c.toNat % 64) rest
          else .error (some 1)

/-- Read all bytes, `fuel` characters at most, of which `index` bytes come before. -/
def decodeFrom : Nat → Nat → List UInt8 → Except Fault (List Char)
  | _, _, [] => .ok []
  | 0, index, _ => .error ⟨index, none⟩
  | fuel + 1, index, b :: rest =>
      match character b rest with
      | .error length => .error ⟨index, length⟩
      | .ok (code, rest') =>
          match decodeFrom fuel (index + (rest.length + 1 - rest'.length)) rest' with
          | .ok s => .ok (Char.ofNat code :: s)
          | .error f => .error f

def decode (bytes : List UInt8) : Except Fault String :=
  match decodeFrom bytes.length 0 bytes with
  | .ok s => .ok (String.ofList s)
  | .error f => .error f

def replacement : Char := '\ufffd'

/-- Read all bytes, `fuel` characters at most, each bad sequence as a replacement. -/
def decodeLossyFrom : Nat → List UInt8 → List Char
  | _, [] => []
  | 0, _ => [replacement]
  | fuel + 1, b :: rest =>
      match character b rest with
      | .error none => [replacement]
      | .error (some n) => replacement :: decodeLossyFrom fuel ((b :: rest).drop n)
      | .ok (code, rest) => Char.ofNat code :: decodeLossyFrom fuel rest

def decodeLossy (bytes : List UInt8) : String :=
  String.ofList (decodeLossyFrom bytes.length bytes)

end Utf8
end Text
end PointInTime
