import PointInTime.Text.Case

/-!
# Kinds of resources

A resource is addressed by the group and version of its API and by the plural of its kind, which
follows the simple rules of English that the API server uses.
-/

namespace PointInTime
namespace Resource

structure Kind where
  group : String
  version : String
  kind : String
  apiVersion : String
  plural : String
deriving DecidableEq, Repr

def splitFirst (c : Char) (s : List Char) : Option (List Char × List Char) :=
  match s.dropWhile (· ≠ c) with
  | [] => none
  | _ :: rest => some (s.takeWhile (· ≠ c), rest)

/-- Group and version of an API; the core API has no group. -/
def groupAndVersion (apiVersion : String) : String × String :=
  match splitFirst '/' apiVersion.toList with
  | some (group, version) => (String.ofList group, String.ofList version)
  | none => ("", apiVersion)

def plural (kind : String) : String :=
  let s := Text.lowercase kind.toList
  String.ofList <|
    match s.reverse with
    | 's' :: _ => s ++ ['e', 's']
    | 'h' :: 'c' :: _ => s ++ ['e', 's']
    | 'h' :: 's' :: _ => s ++ ['e', 's']
    | 'y' :: 'a' :: _ => s ++ ['s']
    | 'y' :: 'e' :: _ => s ++ ['s']
    | 'y' :: rest => rest.reverse ++ ['i', 'e', 's']
    | _ => s ++ ['s']

namespace Kind

def of (apiVersion kind : String) : Kind :=
  let (group, version) := groupAndVersion apiVersion
  ⟨group, version, kind, apiVersion, Resource.plural kind⟩

def operatorVersion : String := "pxc.percona.com/v1"

def cluster : String := "PerconaXtraDBCluster"

def backup : String := "PerconaXtraDBClusterBackup"

def restore : String := "PerconaXtraDBClusterRestore"

end Kind
end Resource
end PointInTime
