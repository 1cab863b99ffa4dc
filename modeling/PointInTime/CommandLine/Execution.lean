import PointInTime.CommandLine.Output

/-!
# Carrying out commands

A command prints something, or fails, or both: a dry run that finds a plan blocked prints the plan
and fails.
-/

namespace PointInTime
namespace CommandLine

inductive Failure where
  | operation (error : Error)
  /-- A dry run found this many blockers, of which this is the first. -/
  | blocked (count : Nat) (first : Workflow.Blocker)
deriving DecidableEq

def Failure.message : Failure → String
  | operation e => e.message
  | blocked count first =>
      "dry run found " ++ toString count ++ " blocking problem(s): " ++ first.text

structure Completion where
  stdout : String := ""
  failure : Option Failure := none

namespace Completion

def exitCode (c : Completion) : Nat :=
  if c.failure.isSome then 1 else 0

def printed (s : String) : Completion := { stdout := s }

def failed (e : Error) : Completion := { failure := some (.operation e) }

/-- A command whose operation failed, or printed its result. -/
def ofResult {α : Type} (print : α → Completion) : Except Error α → Completion
  | .ok a => print a
  | .error e => failed e

end Completion

def dryRunCompletion (format : OutputFormat) (p : Workflow.Plan) : Completion where
  stdout := Output.render format p.toJson (Output.planLines p)
  failure := p.blockers.head?.map fun first => .blocked p.blockers.length first

def restoreCompletion (format : OutputFormat) (r : Workflow.Report) : Completion :=
  .printed (Output.render format r.toJson (Output.reportLines r))

namespace RestoreCommand

def patience (c : RestoreCommand) : Workflow.Patience where
  restoreTimeout := c.timeout
  readyTimeout := c.readyTimeout

def execute (c : RestoreCommand) : Procedure Server Completion := do
  if c.dryRun then
    return .ofResult (dryRunCompletion c.output) (← (Workflow.plan c.options).run)
  else
    return .ofResult (restoreCompletion c.output) (← (Workflow.run c.patience c.options).run)

end RestoreCommand

def printBackups (now : Instant) (env : String) (format : OutputFormat) :
    Procedure Server Completion := do
  let listings ← Workflow.listBackups env
  return .printed
    (Output.render format (.arr (listings.map BackupListing.toJson))
      (Output.backupLines now env listings))

namespace Attended

def execute (now : Instant) (connection : Connection) (file : Except FileFault Configuration)
    (command : Attended) : Procedure Server Completion :=
  match connection.check file with
  | .error e => return .failed e
  | .ok () =>
      match command with
      | .restore c => c.execute
      | .backups env format => printBackups now env format

end Attended
end CommandLine
end PointInTime
