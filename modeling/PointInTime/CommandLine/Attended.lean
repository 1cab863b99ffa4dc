import PointInTime.CommandLine.Connection
import PointInTime.Workflow.Restore

/-!
# Attended commands

Someone at a terminal starts a restore and waits for it, or looks which backups there are.
-/

namespace PointInTime
namespace CommandLine

inductive OutputFormat where
  | table
  | json
  | yaml
deriving DecidableEq, Repr

namespace OutputFormat

def ofText? : String → Option OutputFormat
  | "table" => some table
  | "json" => some json
  | "yaml" => some yaml
  | _ => none

def text : OutputFormat → String
  | table => "table"
  | json => "json"
  | yaml => "yaml"

def check (s : String) : Option Refusal :=
  if (ofText? s).isSome then none else some .invalidValue

def option : Opt := { long := "output", short := some 'o', action := .value check }

def ofReading (r : Reading) : OutputFormat :=
  ((r.values "output").bind ofText?).getD table

end OutputFormat

structure RestoreCommand where
  options : RestoreOptions
  /-- Only plan, and change nothing. -/
  dryRun : Bool := false
  timeout : Duration := .ofHours 2
  readyTimeout : Duration := .ofMinutes 30
  output : OutputFormat := .table
deriving DecidableEq

inductive Attended where
  | restore (command : RestoreCommand)
  | backups (env : String) (output : OutputFormat)
deriving DecidableEq

namespace Attended

def checkInstant (s : String) : Option Refusal :=
  match Instant.parse s with
  | .ok _ => none
  | .error _ => some .unreadableValue

def restoreOptions : List Opt :=
  [{ textOption "source-env" with required := true }, textOption "source-cluster",
    textOption "target-env", textOption "target-cluster", textOption "backup",
    { long := "recovery-instant", action := .value checkInstant },
    { long := "create-namespace", action := .flag }, { long := "dry-run", action := .flag },
    durationOption "timeout", durationOption "ready-timeout", OutputFormat.option]

def backupsOptions : List Opt :=
  [{ textOption "env" with required := true }, OutputFormat.option]

def program : Program :=
  .of "rewind" [("restore", restoreOptions), ("backups", backupsOptions)]

def restoreOf (r : Reading) : RestoreCommand where
  options :=
    { sourceScope := (r.values "source-env").getD ""
      sourceCluster := r.values "source-cluster"
      targetScope := r.values "target-env"
      targetCluster := r.values "target-cluster"
      backupName := r.values "backup"
      instant := (r.values "recovery-instant").bind fun s => Instant.ofGiven? s.toList
      createNamespace := r.isSet "create-namespace" }
  dryRun := r.isSet "dry-run"
  timeout := r.duration "timeout" (.ofHours 2)
  readyTimeout := r.duration "ready-timeout" (.ofMinutes 30)
  output := .ofReading r

def ofReading (r : Reading) : Attended :=
  if r.subcommand = "restore" then .restore (restoreOf r)
  else .backups ((r.values "env").getD "") (.ofReading r)

def read (environment : String → Option String) (arguments : List String) :
    Except Refusal (Connection × Attended) := do
  let r ← CommandLine.read program environment arguments
  return (.ofReading r, ofReading r)

end Attended
end CommandLine
end PointInTime
