import PointInTime.Error

/-!
# Names

Names of objects are DNS labels.  This module checks them and makes the names of new clusters and
restore jobs, which carry the instant they belong to.
-/

namespace PointInTime
namespace Name

/-! ## Labels -/

def isLower (c : Char) : Bool := 97 ≤ c.toNat && c.toNat ≤ 122

def isInner (c : Char) : Bool := isLower c || c.isDigit || c == '-'

/-- Whether the characters make a label: they are allowed, a letter begins and no dash ends. -/
def isLabel (s : List Char) : Bool :=
  s.all isInner && s.head?.any isLower && s.getLast?.any fun c => isLower c || c.isDigit

def check (name : String) (limit : Nat) : Except Error Unit :=
  if name = "" then .error (.validation "name must not be empty")
  else if limit < name.utf8ByteSize then
    .error (.validation
      ("name '" ++ name ++ "' is " ++ toString name.utf8ByteSize ++ " characters, maximum is " ++
        toString limit))
  else if isLabel name.toList then .ok ()
  else
    .error (.validation
      ("name '" ++ name ++ "' must consist of lowercase letters, digits and '-', " ++
        "start with a letter and end with a letter or digit"))

/-- The longest name of a cluster that the operator accepts. -/
def clusterLimit : Nat := 22

def namespaceLimit : Nat := 63

/-! ## New names -/

def dropDashes (s : List Char) : List Char :=
  (s.reverse.dropWhile (· == '-')).reverse

/-- The name of a restored cluster when none is given: the source's name, shortened to fit, and the
minute of the instant. -/
def forCluster (source : String) (instant : Instant) : String :=
  let stamp := instant.minuteText
  let stem := source.toList.take (clusterLimit - stamp.length - 1)
  String.ofList (dropDashes stem ++ '-' :: stamp)

def forJob (cluster : String) (time : Instant) (nonce : String) : String :=
  "restore-" ++ cluster ++ "-" ++ time.nameSuffix ++ "-" ++ nonce

/-- The characters of a nonce: no vowels and nothing that reads like another. -/
def nonceAlphabet : List Char := "bcdfghjklmnpqrstvwxz2456789".toList

def nonceLength : Nat := 5

def forTracking (cluster : String) : String :=
  "rewind-standby-" ++ cluster

end Name
end PointInTime
