import PointInTime.CommandLine.Attended
import PointInTime.Instant.Age
import PointInTime.Text.Table
import PointInTime.Yaml.Document

/-!
# What is printed

Results are printed for people as sentences and tables, or for programs as JSON or YAML.
-/

namespace PointInTime
namespace CommandLine
namespace Output

/-! ## Lines -/

def ofLines (lines : List String) : String :=
  String.join (lines.map (· ++ "\n"))

/-- A result for programs, or none where it is to be printed for people. -/
def structured? (format : OutputFormat) (j : Json) : Option String :=
  match format with
  | .table => none
  | .json => some (j.pretty ++ "\n")
  | .yaml => some (Yaml.document j)

def render (format : OutputFormat) (j : Json) (lines : List String) : String :=
  (structured? format j).getD (ofLines lines)

def cellOf (s : Option String) : String :=
  s.getD "-"

/-! ## Plans -/

def checkRow (c : Workflow.Check) : List String :=
  [if c.passed then "ok" else "FAIL", c.name, c.detail]

def actionRow (a : Workflow.PlannedAction) : List String :=
  [a.kind, if a.scope = "" then "-" else a.scope, a.name, a.detail]

def planEnd (p : Workflow.Plan) : List String :=
  if p.isBlocked then
    ["Nothing would be changed: " ++ toString p.blockers.length ++ " check(s) failed."]
  else
    "Would create:" ::
      Text.Table.render ["KIND", "NAMESPACE", "NAME", "DETAIL"] (p.actions.map actionRow)

def planLines (p : Workflow.Plan) : List String :=
  ["Restore " ++ p.sourceScope ++ "/" ++ p.sourceCluster ++ " -> " ++ p.targetScope ++ "/" ++
      p.targetCluster,
    "Backup " ++ p.backup.name ++ " at " ++ p.instant.format ++ " (window " ++ p.window.text ++
      ")",
    ""] ++
    Text.Table.render ["RESULT", "CHECK", "DETAIL"] (p.checks.map checkRow) ++ "" :: planEnd p

/-! ## Reports -/

def databaseRow (d : DatabaseTables) : List String :=
  [d.name, toString d.tables]

def reportLines (r : Workflow.Report) : List String :=
  let s := r.submission
  ["Restored " ++ s.backup ++ " to " ++ s.instant.format ++ " in " ++ s.scope ++ "/" ++
      s.cluster ++ " (job " ++ s.job ++ ")"] ++
    s.clone.warnings.map (fun w => "warning: " ++ w) ++
    "" ::
      Text.Table.render ["DATABASE", "TABLES"] (r.summary.databases.map databaseRow) ++
    [toString r.summary.totalDatabases ++ " database(s), " ++ toString r.summary.totalTables ++
      " table(s)"]

/-! ## Listings -/

def windowCell (l : BackupListing) : String :=
  match l.window with
  | none => "-"
  | some w =>
      if l.pointInTime then w.earliest.format ++ " - " ++ w.latest.format
      else w.earliest.format ++ " only (point-in-time unavailable)"

def backupRow (now : Instant) (l : BackupListing) : List String :=
  [l.record.name, l.record.cluster, l.record.state.text, Instant.cell l.record.completedAt,
    cellOf (l.record.completedAt.map (Instant.age now)), cellOf l.record.storageName,
    windowCell l, cellOf l.record.destination]

def backupHeaders : List String :=
  ["NAME", "CLUSTER", "STATE", "COMPLETED", "AGE", "STORAGE", "RESTORABLE WINDOW",
    "DESTINATION"]

def backupLines (now : Instant) (env : String) (listings : List BackupListing) : List String :=
  if listings = [] then ["No backups found in " ++ env ++ "."]
  else Text.Table.render backupHeaders (listings.map (backupRow now))

end Output
end CommandLine
end PointInTime
