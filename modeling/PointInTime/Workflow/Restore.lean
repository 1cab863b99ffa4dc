import PointInTime.Restore.Job
import PointInTime.Workflow.Plan
import PointInTime.Workflow.Summary
import PointInTime.Procedure.Retry

/-!
# Carrying out a restore

A restore is planned first and carried out only if nothing blocks it: the namespace, the secrets,
the cluster and the job are created in this order.  An attended restore then waits for the job,
waits for the cluster to serve, and counts the tables of its databases.
-/

namespace PointInTime
namespace Workflow

structure Patience where
  restoreTimeout : Duration := .ofHours 2
  readyTimeout : Duration := .ofMinutes 30
  pollInterval : Duration := .ofSeconds 10
deriving Repr

/-! ## Results -/

structure Submission where
  job : String
  cluster : String
  scope : String
  backup : String
  instant : Instant
  clone : Clone.Report
deriving DecidableEq

def Submission.toJson (s : Submission) : Json :=
  .obj
    [("restoreJobId", .str s.job), ("targetClusterName", .str s.cluster),
      ("targetNamespace", .str s.scope), ("backupName", .str s.backup),
      ("recoveryInstant", .str s.instant.format), ("clone", s.clone.toJson)]

structure Report where
  submission : Submission
  summary : DatabaseSummary
deriving DecidableEq

def Report.toJson (r : Report) : Json :=
  .obj [("submission", r.submission.toJson), ("summary", r.summary.toJson)]

structure NamespaceStatus where
  scope : String
  doesExist : Bool
  clusters : List String
  /-- Whether a name that was asked for is taken. -/
  collision : Option Bool
deriving DecidableEq, Repr

def NamespaceStatus.toJson (s : NamespaceStatus) : Json :=
  .obj <|
    [("namespace", .str s.scope), ("exists", .bool s.doesExist),
        ("clusters", .arr (s.clusters.map .str))] ++
      Json.present "collision" (s.collision.map .bool)

structure ClusterStatus where
  scope : String
  cluster : String
  state : Option String
  ready : Bool
deriving DecidableEq, Repr

def ClusterStatus.toJson (s : ClusterStatus) : Json :=
  .obj
    [("namespace", .str s.scope), ("cluster", .str s.cluster),
      ("state", Json.optional s.state), ("ready", .bool s.ready)]

/-! ## Looking -/

/-- Whether a namespace exists, its clusters, and whether a name is taken among them. -/
def checkNamespace (scope : String) (cluster : Option String) : Operation NamespaceStatus := do
  let doesExist ← Operation.namespaceExists scope
  let clusters ← if doesExist then Operation.listClusters scope else pure []
  let names := clusters.map Cluster.name
  return ⟨scope, doesExist, names, cluster.map fun c => names.contains c⟩

def listBackups (scope : String) : Procedure Server (List BackupListing) := do
  return (← Catalog.listAll scope).map BackupListing.ofRecord

def existingCluster (scope cluster : String) : Operation Cluster := do
  Operation.orMissing (.missing "cluster" cluster scope) (← Operation.getCluster scope cluster)

def clusterStatus (scope cluster : String) : Operation ClusterStatus := do
  let definition ← existingCluster scope cluster
  return ⟨scope, cluster, definition.state?, definition.isReady⟩

/-! ## Starting -/

/-- Create a namespace; nothing happens to one that exists. -/
def createNamespace (scope : String) : Operation Unit := do
  Operation.of (Name.check scope Name.namespaceLimit)
  Operation.createNamespace scope

def carryOut (p : Plan) : Operation Submission := do
  if p.createNamespace then createNamespace p.targetScope
  let clone ← Clone.run p.cloneRequest
  let job ← Job.submit p.targetScope p.targetCluster p.backup p.instant p.storageName
  return ⟨job, p.targetCluster, p.targetScope, p.backup.name, p.instant, clone⟩

def execute (o : RestoreOptions) : Operation Submission := do
  let p ← plan o
  match p.firstError? with
  | some e => throw e
  | none => carryOut p

/-! ## Attending -/

def awaitRestore (patience : Patience) (scope job : String) : Operation Unit := do
  let outcome ← Job.await scope job patience.pollInterval patience.restoreTimeout
  Operation.of (outcome.check job)

def serves (scope cluster : String) : Operation Bool := do
  return (← Operation.getCluster scope cluster).any (·.isReady)

/-- Wait for a cluster to serve; as long as it cannot be looked at it does not. -/
def awaitReady (patience : Patience) (scope cluster : String) : Operation Unit :=
  ExceptT.mk <|
    Procedure.pollUntil patience.readyTimeout patience.pollInterval
      ("cluster " ++ scope ++ "/" ++ cluster ++ " did not become ready")
      (.internal "wait_until_ready"
        ("wait for cluster " ++ scope ++ "/" ++ cluster ++ " was cancelled"))
      (serves scope cluster).run

def notReady (scope cluster : String) (definition : Cluster) : Error :=
  .conflict
    ("cluster " ++ scope ++ "/" ++ cluster ++ " is not ready (state " ++
      definition.state?.getD "unknown" ++ ")")

def summary (scope cluster : String) : Operation DatabaseSummary := do
  let definition ← existingCluster scope cluster
  if !definition.isReady then throw (notReady scope cluster definition)
  let output ← Procedure.retryLimited {} RetryPolicy.maxAttempts_default_pos
    (Operation.exec scope (DatabaseSummary.pod cluster) DatabaseSummary.container
      DatabaseSummary.command)
  Operation.of (DatabaseSummary.parse cluster output)

/-- A whole restore: start it, wait for the job and the cluster, and look at the databases. -/
def run (patience : Patience) (o : RestoreOptions) : Operation Report := do
  let s ← execute o
  awaitRestore patience s.scope s.job
  awaitReady patience s.scope s.cluster
  let databases ← summary s.scope s.cluster
  return ⟨s, databases⟩

end Workflow
end PointInTime
