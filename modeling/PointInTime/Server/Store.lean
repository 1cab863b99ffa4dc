import PointInTime.Server.Command
import PointInTime.Server.Refusal

/-!
# A server that stores objects

A server holds objects as they were sent and answers every request from them.  Objects are stored
in the order of their creation.  A new object takes a name that is free in its namespace; a
namespace or a configuration that is applied replaces the one of its name.

What is stored need not have the shape that a reader expects.  A list leaves out what cannot be
read, and a single object that cannot be read is an error.
-/

namespace PointInTime

structure Store where
  namespaces : List String := []
  clusters : List Json := []
  backups : List Json := []
  restores : List Json := []
  secrets : List Json := []
  configs : List Json := []
  /-- The results of the commands to come; the last one stands for all after it. -/
  commands : List CommandResult := []
deriving Repr, Inhabited

namespace Store

/-! ## Objects by name -/

def metadataText (key : String) (j : Json) : String :=
  ((j.path? ["metadata", key]).bind Json.asString?).getD ""

/-- Whether an object has a place: its namespace and its name. -/
def isAt (scope name : String) (j : Json) : Bool :=
  metadataText "namespace" j == scope && metadataText "name" j == name

def inScope (scope : String) (objects : List Json) : List Json :=
  objects.filter fun j => metadataText "namespace" j == scope

def find? (scope name : String) (objects : List Json) : Option Json :=
  objects.find? (isAt scope name)

/-- Put an object at its place, over the one that is there. -/
def put (object : Json) (objects : List Json) : List Json :=
  let here := isAt (metadataText "namespace" object) (metadataText "name" object)
  if objects.any here then objects.map fun j => if here j then object else j
  else objects ++ [object]

def remove (scope name : String) (objects : List Json) : List Json :=
  objects.filter fun j => !isAt scope name j

def setStatus (scope name : String) (status : Option Json) (objects : List Json) : List Json :=
  objects.map fun j =>
    if isAt scope name j then
      j.mapFields fun fields =>
        match status with
        | some s => fields.set "status" s
        | none => fields.erase "status"
    else j

/-! ## Answers -/

def garbled : Error :=
  .server (.unanswered "error parsing the answer of the server")

/-- All objects of a list, which are unreadable together. -/
def readList (objects : List Json) : Except Error (List Object) :=
  match objects.mapM Object.ofJson? with
  | some list => .ok list
  | none => .error garbled

def readOne {α : Type} (read? : Json → Option α) : Option Json → Except Error (Option α)
  | none => .ok none
  | some j =>
      match read? j with
      | some a => .ok (some a)
      | none => .error garbled

/-- One restore job: an object that is no restore job is an error of its kind. -/
def readRestore (j : Option Json) : Except Error (Option Restore) := do
  match ← readOne Object.ofJson? j with
  | none => return none
  | some o =>
      match Restore.ofObject? o with
      | some r => return some r
      | none => throw (.unreadable (some Resource.Kind.restore) "unexpected shape")

def create (object : Json) (objects : List Json) : Option (List Json) :=
  if objects.any (isAt (metadataText "namespace" object) (metadataText "name" object)) then none
  else some (objects ++ [object])

/-- The result of the next command, and those after it. -/
def nextCommand (commands : List CommandResult) : CommandResult × List CommandResult :=
  match commands with
  | [] => ({}, [])
  | [c] => (c, [c])
  | c :: rest => (c, rest)

def taken (r : Request) : Except Error r.Value :=
  r.refused Request.conflictCode "AlreadyExists" "already exists"

def perform (s : Store) : (r : Request) → Except Error r.Value × Store
  | .listBackups scope =>
      ((readList (inScope scope s.backups)).map fun list => list.filterMap Backup.ofObject?, s)
  | .getCluster scope name => (readOne Cluster.ofJson? (find? scope name s.clusters), s)
  | .listClusters scope =>
      ((readList (inScope scope s.clusters)).map fun list => list.map Cluster.mk, s)
  | .createCluster c =>
      match create c.toJson s.clusters with
      | some clusters => (.ok (), { s with clusters := clusters })
      | none => (taken (.createCluster c), s)
  | .getSecret scope name => (readOne Secret.ofJson? (find? scope name s.secrets), s)
  | .createSecret scope secret =>
      match create secret.toJson s.secrets with
      | some secrets => (.ok (), { s with secrets := secrets })
      | none => (taken (.createSecret scope secret), s)
  | .namespaceExists name => (.ok (s.namespaces.contains name), s)
  | .createNamespace name =>
      (.ok (),
        if s.namespaces.contains name then s
        else { s with namespaces := s.namespaces ++ [name] })
  | .createRestore r =>
      match create r.toJson s.restores with
      | some restores => (.ok (), { s with restores := restores })
      | none => (taken (.createRestore r), s)
  | .getRestore scope name => (readRestore (find? scope name s.restores), s)
  | .listRestores scope =>
      ((readList (inScope scope s.restores)).map fun list => list.filterMap Restore.ofObject?, s)
  | .getConfig scope name => (readOne ConfigMap.dataOfJson? (find? scope name s.configs), s)
  | .applyConfig scope name _ data =>
      (.ok (), { s with configs := put (ConfigMap.toJson scope name data) s.configs })
  | .exec scope pod _ _ =>
      let (result, commands) := nextCommand s.commands
      (result.output scope pod, { s with commands := commands })

end Store
end PointInTime
