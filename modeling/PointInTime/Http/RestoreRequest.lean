import PointInTime.Http.Body
import PointInTime.Http.Fault
import PointInTime.Text.Blank
import PointInTime.Workflow.Options

/-!
# Restores that are asked for

The body of a request for a restore.  What people leave blank in a form counts as left open; the
source has to be named.
-/

namespace PointInTime
namespace Http

structure RestoreRequest where
  sourceEnv : String
  sourceCluster : Option String := none
  targetEnv : Option String := none
  targetCluster : Option String := none
  backupName : Option String := none
  recoveryInstant : Option String := none
  createNamespace : Bool := false
deriving DecidableEq, Repr

namespace RestoreRequest

def fields : Fields :=
  [("sourceEnv", .text), ("sourceCluster", .optionalText), ("targetEnv", .optionalText),
    ("targetCluster", .optionalText), ("backupName", .optionalText),
    ("recoveryInstant", .optionalText), ("createNamespace", .flag)]

def ofRecord? (r : Json.Record) : Option RestoreRequest := do
  let sourceEnv ← Json.required Json.asString? (r "sourceEnv")
  let sourceCluster ← Json.optionally Json.asString? (r "sourceCluster")
  let targetEnv ← Json.optionally Json.asString? (r "targetEnv")
  let targetCluster ← Json.optionally Json.asString? (r "targetCluster")
  let backupName ← Json.optionally Json.asString? (r "backupName")
  let recoveryInstant ← Json.optionally Json.asString? (r "recoveryInstant")
  let createNamespace ← Json.defaulted false Json.asBool? (r "createNamespace")
  return ⟨sourceEnv, sourceCluster, targetEnv, targetCluster, backupName, recoveryInstant,
    createNamespace⟩

def ofJson? (j : Json) : Option RestoreRequest :=
  (j.record? (fields.map (·.1))).bind ofRecord?

/-- A text with something other than white space in it. -/
def given (s : Option String) : Option String :=
  s.filter fun s => !Text.isAllBlank s.toList

def instant (r : RestoreRequest) : Except Error (Option Instant) :=
  match given r.recoveryInstant with
  | some s => (Instant.parse s).map some
  | none => .ok none

def options (r : RestoreRequest) : Except Fault RestoreOptions :=
  if Text.isAllBlank r.sourceEnv.toList then .error (.badRequest "sourceEnv is required")
  else
    match r.instant with
    | .error e => .error (.operation e)
    | .ok instant =>
        .ok
          { sourceScope := r.sourceEnv
            sourceCluster := given r.sourceCluster
            targetScope := given r.targetEnv
            targetCluster := given r.targetCluster
            backupName := given r.backupName
            instant := instant
            createNamespace := r.createNamespace }

end RestoreRequest

structure NamespaceRequest where
  env : String
deriving DecidableEq, Repr

namespace NamespaceRequest

def fields : Fields := [("env", .text)]

def ofRecord? (r : Json.Record) : Option NamespaceRequest :=
  (Json.required Json.asString? (r "env")).map NamespaceRequest.mk

def toJson (r : NamespaceRequest) : Json :=
  .obj [("env", .str r.env)]

end NamespaceRequest
end Http
end PointInTime
