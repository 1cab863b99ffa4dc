import PointInTime.CommandLine.Connection
import PointInTime.Http.SocketAddress
import PointInTime.Standby.Cycle
import PointInTime.Workflow.Restore

/-!
# Unattended services

Two services run without a terminal: the controller that keeps a standby caught up, and the HTTP
interface.  Both are set up by options or by the environment.
-/

namespace PointInTime
namespace CommandLine

inductive Service where
  | controller (settings : Standby.Settings)
  | serve (listen : SocketAddress) (patience : Workflow.Patience)
deriving Repr

namespace Service

def withVariable (name : String) (o : Opt) : Opt :=
  { o with envVar := some name }

def checkAddress (s : String) : Option Refusal :=
  if (SocketAddress.ofText? s).isSome then none else some .unreadableValue

/-- The address that is listened on if none is given: port 8080 of every network. -/
def defaultAddress : SocketAddress := ⟨.v4 [0, 0, 0, 0], 8080⟩

def patienceOptions : List Opt :=
  [withVariable "REWIND_RESTORE_TIMEOUT" (durationOption "restore-timeout"),
    withVariable "REWIND_POLL_INTERVAL" (durationOption "poll-interval")]

def controllerOptions : List Opt :=
  [withVariable "REWIND_SOURCE_NAMESPACE"
      { textOption "source-namespace" with required := true },
    withVariable "REWIND_SOURCE_CLUSTER" (textOption "source-cluster"),
    withVariable "REWIND_TARGET_NAMESPACE"
      { textOption "target-namespace" with required := true },
    withVariable "REWIND_TARGET_CLUSTER" { textOption "target-cluster" with required := true },
    withVariable "REWIND_CYCLE_INTERVAL" (durationOption "cycle-interval")] ++ patienceOptions

def serveOptions : List Opt :=
  withVariable "REWIND_LISTEN_ADDR" { long := "listen-addr", action := .value checkAddress } ::
    patienceOptions

def program : Program :=
  .of "rewind-operator" [("controller", controllerOptions), ("serve", serveOptions)]

def settingsOf (r : Reading) : Standby.Settings where
  sourceScope := (r.values "source-namespace").getD ""
  sourceCluster := r.values "source-cluster"
  targetScope := (r.values "target-namespace").getD ""
  targetCluster := (r.values "target-cluster").getD ""
  cycleInterval := r.duration "cycle-interval" (.ofMinutes 5)
  restoreTimeout := r.duration "restore-timeout" (.ofHours 2)
  pollInterval := r.duration "poll-interval" (.ofSeconds 10)

def patienceOf (r : Reading) : Workflow.Patience where
  restoreTimeout := r.duration "restore-timeout" (.ofHours 2)
  pollInterval := r.duration "poll-interval" (.ofSeconds 10)

def addressOf (r : Reading) : SocketAddress :=
  ((r.values "listen-addr").bind SocketAddress.ofText?).getD defaultAddress

def ofReading (r : Reading) : Service :=
  if r.subcommand = "controller" then .controller (settingsOf r)
  else .serve (addressOf r) (patienceOf r)

def read (environment : String → Option String) (arguments : List String) :
    Except Refusal (Connection × Service) := do
  let r ← CommandLine.read program environment arguments
  return (.ofReading r, ofReading r)

end Service
end CommandLine
end PointInTime
