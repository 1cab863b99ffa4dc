import PointInTime.Catalog.Basic
import PointInTime.Restore.Job
import PointInTime.Standby.Tracker

/-!
# Keeping a standby caught up

A standby cluster is restored, again and again, to the newest completed backup of its source.  Each
cycle either finds nothing to do and submits nothing, or submits one job, follows it, and on
success alone records which backup the standby now holds.  A cycle that fails leaves the record
alone, so that the next one attempts the same backup again.

Counting the jobs at work and submitting another are two requests.  One controller for a namespace
is what keeps them apart.
-/

namespace PointInTime
namespace Standby

structure Settings where
  sourceScope : String
  /-- Only the backups of this cluster count, those of all if none is given. -/
  sourceCluster : Option String := none
  targetScope : String
  targetCluster : String
  cycleInterval : Duration := .ofMinutes 5
  restoreTimeout : Duration := .ofHours 2
  pollInterval : Duration := .ofSeconds 10
deriving Repr

inductive Outcome where
  | inFlight (count : Nat)
  | noBackup
  | incompleteBackup (backup : String)
  | upToDate (backup : String)
  | restored (backup job : String)
  | restoreFailed (backup job reason : String)
  | restoreTimedOut (backup job : String)
  | cancelled (backup job : String)
deriving DecidableEq, Repr

def Outcome.isSkip : Outcome → Bool
  | inFlight _ => true
  | noBackup => true
  | incompleteBackup _ => true
  | upToDate _ => true
  | _ => false

def storageOf (r : BackupRecord) : Except Error String :=
  match r.storageName with
  | some s => .ok s
  | none => .error (.validation ("backup " ++ r.name ++ " does not name its storage"))

def failureReason (state : RestoreState) (comments : Option String) : String :=
  match comments with
  | some c => state.text ++ ": " ++ c
  | none => state.text

/-- Restore the standby to a backup that is not recorded yet, and record it on success. -/
def restore (s : Settings) (backup : BackupRecord) (completedAt : Instant)
    (identity : TrackingRecord) : Operation Outcome := do
  let storage ← Operation.of (storageOf backup)
  let job ← Job.submit s.targetScope s.targetCluster backup completedAt storage
  match ← Job.await s.targetScope job s.pollInterval s.restoreTimeout with
  | .succeeded =>
      identity.save s.targetScope s.targetCluster
      return .restored backup.name job
  | .failed state comments => return .restoreFailed backup.name job (failureReason state comments)
  | .timedOut _ => return .restoreTimedOut backup.name job
  | .cancelled => return .cancelled backup.name job

/-- Bring the standby to the newest backup, unless that is incomplete or recorded already. -/
def catchUp (s : Settings) (newest : BackupRecord) : Operation Outcome :=
  match newest.completedAt, TrackingRecord.ofRecord? newest with
  | some completedAt, some identity => do
      match ← TrackingRecord.load s.targetScope s.targetCluster with
      | some last =>
          if last.identifies newest then return .upToDate newest.name
          else restore s newest completedAt identity
      | none => restore s newest completedAt identity
  | _, _ => return .incompleteBackup newest.name

def cycle (s : Settings) : Operation Outcome := do
  let count ← Job.countInFlight s.targetScope
  if 0 < count then return .inFlight count
  match ← (Catalog.newest s.sourceScope s.sourceCluster : Procedure Server _) with
  | none => return .noBackup
  | some newest => catchUp s newest

def isCancelled : Except Error Outcome → Bool
  | .ok (.cancelled _ _) => true
  | _ => false

/-- Cycles with pauses in between until cancelled, `cycles` of them at most; whether the end was
reached. -/
def run (s : Settings) : Nat → Procedure Server Bool
  | 0 => .done false
  | cycles + 1 => do
      if isCancelled (← (cycle s).run) then return true
      match ← Procedure.pauseFor s.cycleInterval with
      | .cancelled => return true
      | .elapsed => run s cycles

end Standby
end PointInTime
