import PointInTime.Catalog.Record
import PointInTime.Name
import PointInTime.Procedure.Poll
import PointInTime.Server.Request

/-!
# Restore jobs

A job is built from a backup and an instant, submitted under a fresh name and followed until it is
decided, the time is up, or the wait is cancelled.  A job that is no longer waited for is left to
finish.
-/

namespace PointInTime
namespace Job

/-! ## Building -/

def target (instant : Instant) (storageName : String) : RecoveryTarget where
  targetType := "date"
  date := some instant.format
  backupSource := some { storageName := some storageName }

/-- The job that restores a backup to an instant.  The backup is named by where it lies, since it
may belong to another namespace; an instant is set only if it differs from the completion. -/
def build (name scope cluster : String) (backup : BackupRecord) (instant : Instant)
    (storageName : String) : Except Error Restore :=
  match backup.destination with
  | none =>
      .error (.validation
        ("backup " ++ backup.name ++ " has no storage destination and cannot be restored"))
  | some destination =>
      .ok
        { metadata := (Metadata.managed name scope).annotate Mark.sourceBackup backup.name
          spec :=
            { cluster := cluster
              backupSource := some ⟨some destination, some storageName⟩
              target :=
                if backup.completedAt = some instant then none
                else some (target instant storageName) } }

def submit (scope cluster : String) (backup : BackupRecord) (instant : Instant)
    (storageName : String) : Operation String := do
  let stamp ← Procedure.newStamp
  let name := Name.forJob cluster stamp.time stamp.nonce
  let job ← Operation.of (build name scope cluster backup instant storageName)
  Operation.createRestore job
  return name

/-! ## Following -/

inductive Outcome where
  | succeeded
  | failed (state : RestoreState) (comments : Option String)
  | timedOut (lastState : RestoreState)
  | cancelled
deriving DecidableEq, Repr

def Outcome.check (job : String) : Outcome → Except Error Unit
  | succeeded => .ok ()
  | failed state comments =>
      .error (.externalFailure
        ("restore job " ++ job ++ " reached state " ++ state.text ++
          match comments with
          | some c => ": " ++ c
          | none => ""))
  | timedOut lastState =>
      .error (.timeout
        ("restore job " ++ job ++ " still " ++ lastState.text ++ " when the wait ended"))
  | cancelled =>
      .error (.internal "await_terminal" ("wait for restore job " ++ job ++ " was cancelled"))

/-- What one reading of a job says: an end of the wait, or the state to go on with.  A job that is
missing ends it, an error that may pass leaves the state as it was. -/
def judge (scope job : String) (seen : RestoreState) :
    Except Error (Option Restore) → Except Error Outcome ⊕ RestoreState
  | .ok (some restore) =>
      match restore.state with
      | .succeeded => .inl (.ok .succeeded)
      | .failed => .inl (.ok (.failed .failed (restore.status.bind (·.comments))))
      | .error => .inl (.ok (.failed .error (restore.status.bind (·.comments))))
      | state => .inr state
  | .ok none => .inl (.error (.missing "restore job" job scope))
  | .error e => if e.isRetryable then .inr seen else .inl (.error e)

def look (scope job : String) (seen : RestoreState) :
    Procedure Server (Except Error Outcome ⊕ RestoreState) := do
  return judge scope job seen (← (Operation.getRestore scope job).run)

def await (scope job : String) (interval timeout : Duration) : Operation Outcome :=
  ExceptT.mk do
    match ← Procedure.follow interval (look scope job) .starting timeout with
    | .decided outcome => return outcome
    | .expired lastState => return .ok (.timedOut lastState)
    | .cancelled => return .ok .cancelled

/-! ## Looking -/

def countInFlight (scope : String) : Operation Nat := do
  return ((← Operation.listRestores scope).filter (·.state.isInFlight)).length

structure Status where
  name : String
  cluster : String
  state : RestoreState
  comments : Option String
  completed : Option Instant
deriving DecidableEq

def status (scope job : String) : Operation Status := do
  let restore ← Operation.orMissing (.missing "restore job" job scope)
    (← Operation.getRestore scope job)
  let reported := restore.status.getD {}
  return ⟨restore.metadata.name, restore.spec.cluster, restore.state, reported.comments,
    reported.completed⟩

def Status.toJson (s : Status) : Json :=
  .obj
    [("name", .str s.name), ("cluster", .str s.cluster), ("state", .str s.state.text),
      ("terminal", .bool s.state.isTerminal), ("comments", Json.optional s.comments),
      ("completed", Instant.optionalJson s.completed)]

end Job
end PointInTime
