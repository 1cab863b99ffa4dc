import PointInTime.Catalog.Basic
import PointInTime.Name
import PointInTime.Workflow.Clone
import PointInTime.Workflow.Options

/-!
# Planning a restore

A plan is made by reads alone.  It decides what the caller left open, checks all that can be
checked, and lists what would be created.  What makes a plan impossible is an error; what stops a
plan that can be made is a blocker of it.
-/

namespace PointInTime
namespace Workflow

/-! ## Parts of a plan -/

inductive Blocker where
  | outOfRange (requested earliest latest : Instant)
  | nameCollision (scope cluster : String)
  | missingNamespace (scope : String)
  | missingCredential (secret purpose : String)
deriving DecidableEq

namespace Blocker

def toError : Blocker → Error
  | outOfRange requested earliest latest => .outOfRange requested earliest latest
  | nameCollision scope cluster => Clone.collision scope cluster
  | missingNamespace scope => .notFound "namespace" scope none
  | missingCredential secret purpose =>
      .externalFailure (purpose ++ " secret " ++ secret ++ " is missing in the source environment")

def text (b : Blocker) : String :=
  b.toError.message

def toJson : Blocker → Json
  | outOfRange requested earliest latest =>
      .obj
        [("kind", .str "outOfRange"), ("requested", .str requested.format),
          ("earliest", .str earliest.format), ("latest", .str latest.format)]
  | nameCollision scope cluster =>
      .obj
        [("kind", .str "nameCollision"), ("namespace", .str scope), ("cluster", .str cluster)]
  | missingNamespace scope =>
      .obj [("kind", .str "missingNamespace"), ("namespace", .str scope)]
  | missingCredential secret purpose =>
      .obj
        [("kind", .str "missingCredential"), ("secret", .str secret), ("purpose", .str purpose)]

end Blocker

structure Check where
  name : String
  passed : Bool
  detail : String
deriving DecidableEq, Repr

def Check.toJson (c : Check) : Json :=
  .obj [("name", .str c.name), ("passed", .bool c.passed), ("detail", .str c.detail)]

structure PlannedAction where
  kind : String
  name : String
  scope : String
  detail : String
deriving DecidableEq, Repr

def PlannedAction.toJson (a : PlannedAction) : Json :=
  .obj
    [("kind", .str a.kind), ("name", .str a.name), ("namespace", .str a.scope),
      ("detail", .str a.detail)]

structure Plan where
  sourceScope : String
  sourceCluster : String
  targetScope : String
  targetCluster : String
  backup : BackupRecord
  window : RecoveryWindow
  pointInTime : Bool
  instant : Instant
  storageName : String
  namespaceExists : Bool
  createNamespace : Bool
  clone : Clone.Preview
  checks : List Check
  blockers : List Blocker
  actions : List PlannedAction
deriving DecidableEq

namespace Plan

def isBlocked (p : Plan) : Bool :=
  !p.blockers.isEmpty

def firstError? (p : Plan) : Option Error :=
  p.blockers.head?.map Blocker.toError

def cloneRequest (p : Plan) : Clone.Request :=
  ⟨p.sourceScope, p.sourceCluster, p.targetScope, p.targetCluster, some p.storageName⟩

def toJson (p : Plan) : Json :=
  .obj
    [("sourceNamespace", .str p.sourceScope), ("sourceCluster", .str p.sourceCluster),
      ("targetNamespace", .str p.targetScope), ("targetCluster", .str p.targetCluster),
      ("backup", p.backup.toJson), ("window", p.window.toJson),
      ("pointInTimeAvailable", .bool p.pointInTime),
      ("recoveryInstant", .str p.instant.format), ("storageName", .str p.storageName),
      ("namespaceExists", .bool p.namespaceExists),
      ("createNamespace", .bool p.createNamespace), ("clone", p.clone.toJson),
      ("checks", .arr (p.checks.map Check.toJson)),
      ("blockers", .arr (p.blockers.map Blocker.toJson)),
      ("actions", .arr (p.actions.map PlannedAction.toJson))]

end Plan

/-! ## Checks

Each check comes with the blocker it raises when it fails.
-/

abbrev Finding := Check × Option Blocker

/-- The names of the checks that failed and the blockers belong together. -/
def blockersOf (findings : List Finding) : List Blocker :=
  findings.filterMap (·.2)

def checksOf (findings : List Finding) : List Check :=
  findings.map (·.1)

def sourceFinding (scope cluster : String) : Finding :=
  (⟨"source cluster", true, scope ++ "/" ++ cluster⟩, none)

def backupFinding (backup : BackupRecord) : Finding :=
  let availability :=
    if backup.pointInTimeWindow?.isSome then "point-in-time available"
    else "point-in-time unavailable"
  (⟨"backup", true, backup.name ++ " (" ++ availability ++ ")"⟩, none)

def windowFinding (window : RecoveryWindow) (instant : Instant) : Finding :=
  (⟨"recovery window", instant ∈ window, instant.format ++ " in " ++ window.text⟩,
    if instant ∈ window then none
    else some (.outOfRange instant window.earliest window.latest))

def namespaceFinding (scope : String) (doesExist create : Bool) : Finding :=
  let detail :=
    if doesExist then scope ++ " exists"
    else if create then scope ++ " will be created"
    else scope ++ " does not exist"
  (⟨"target namespace", doesExist || create, detail⟩,
    if doesExist || create then none else some (.missingNamespace scope))

def nameFinding (clone : Clone.Preview) : Finding :=
  let detail :=
    if clone.collision then clone.targetCluster ++ " already exists in " ++ clone.targetScope
    else clone.targetCluster ++ " is available"
  (⟨"cluster name", !clone.collision, detail⟩,
    if clone.collision then some (.nameCollision clone.targetScope clone.targetCluster) else none)

def credentialFinding (c : Clone.CredentialPlan) : Finding :=
  let detail :=
    if c.inTarget then "already present in target"
    else if c.inSource then "will be copied"
    else if c.essential then "missing in source"
    else "missing in source, restore continues without it"
  (⟨"credential " ++ c.secret ++ " (" ++ c.purpose ++ ")", !c.isBlocking, detail⟩,
    if c.isBlocking then some (.missingCredential c.secret c.purpose) else none)

/-! ## Actions -/

def jobPattern (cluster : String) : String :=
  "restore-" ++ cluster ++ "-<timestamp>-<nonce>"

def actionsOf (clone : Clone.Preview) (createNamespace : Bool) (backup : BackupRecord)
    (instant : Instant) (storageName : String) : List PlannedAction :=
  (if createNamespace then [⟨"Namespace", clone.targetScope, "", "create"⟩] else []) ++
    (clone.credentials.filter (·.willCopy)).map (fun c =>
      ⟨"Secret", c.secret, clone.targetScope, "copy from " ++ clone.sourceScope⟩) ++
    [⟨Resource.Kind.cluster, clone.targetCluster, clone.targetScope,
        "clone of " ++ clone.sourceScope ++ "/" ++ clone.sourceCluster⟩,
      ⟨Resource.Kind.restore, jobPattern clone.targetCluster, clone.targetScope,
        "restore " ++ backup.name ++ " to " ++ instant.format ++ " from storage " ++ storageName⟩]

/-! ## Choices -/

/-- The source cluster: the one named, or the only one of the namespace. -/
def resolveCluster (scope : String) (name : Option String) : Operation Cluster := do
  match name with
  | some name =>
      Operation.orMissing (.missing "cluster" name scope) (← Operation.getCluster scope name)
  | none =>
      match ← Operation.listClusters scope with
      | [] => throw (.missing "cluster" "any" scope)
      | [cluster] => return cluster
      | clusters =>
          let names := ", ".intercalate (clusters.map Cluster.name)
          throw (.validation (scope ++ " has several clusters (" ++ names ++ "), choose one"))

/-- The backups among which a choice is made: those of the cluster that were completed. -/
def candidates (cluster : String) (records : List BackupRecord) : List BackupRecord :=
  records.filter fun r => r.cluster == cluster && r.completedAt.isSome

def covers (instant : Instant) (r : BackupRecord) : Bool :=
  r.window?.any fun w => decide (instant ∈ w)

def completedBy (instant : Instant) (r : BackupRecord) : Bool :=
  r.completedAt.any fun t => decide (t ≤ instant)

/-- The choice among candidates, newest first.  Without an instant it is the newest; with one, the
newest that covers it, else the newest completed by then, else the oldest: of a backup that does
not cover the instant the window can still be shown. -/
def pick? (instant : Option Instant) (records : List BackupRecord) : Option BackupRecord :=
  match instant with
  | none => records.head?
  | some t =>
      ((records.find? (covers t)).or (records.find? (completedBy t))).or records.getLast?

def chooseBackup (scope cluster : String) (instant : Option Instant) : Operation BackupRecord := do
  let records ← (Catalog.list scope : Procedure Server _)
  Operation.orMissing (.missing "backup" ("for cluster " ++ cluster) scope)
    (pick? instant (candidates cluster records))

def readSource (backup : BackupRecord) : Except Error String :=
  match backup.storageName with
  | none => .error (.validation ("backup " ++ backup.name ++ " does not name its storage"))
  | some storage =>
      if backup.hasDestination then .ok storage
      else .error (.validation ("backup " ++ backup.name ++ " has no storage destination"))

def targetName (o : RestoreOptions) (source : String) (instant : Instant) : String :=
  o.targetCluster.getD (Name.forCluster source instant)

/-! ## The plan -/

def assemble (o : RestoreOptions) (source : String) (backup : BackupRecord)
    (window : RecoveryWindow) (instant : Instant) (storageName : String) (namespaceExists : Bool)
    (clone : Clone.Preview) : Plan :=
  let createNamespace := !namespaceExists && o.createNamespace
  let findings :=
    [sourceFinding o.sourceScope source, backupFinding backup, windowFinding window instant,
        namespaceFinding o.target namespaceExists o.createNamespace, nameFinding clone] ++
      clone.credentials.map credentialFinding
  { sourceScope := o.sourceScope
    sourceCluster := source
    targetScope := o.target
    targetCluster := clone.targetCluster
    backup := backup
    window := window
    pointInTime := backup.pointInTimeWindow?.isSome
    instant := instant
    storageName := storageName
    namespaceExists := namespaceExists
    createNamespace := createNamespace
    clone := clone
    checks := checksOf findings
    blockers := blockersOf findings
    actions := actionsOf clone createNamespace backup instant storageName }

def namedBackup (o : RestoreOptions) : Operation (Option BackupRecord) :=
  match o.backupName with
  | none => return none
  | some name => some <$> Catalog.get o.sourceScope name

/-- The backup to restore from: the one named, which has to belong to the source, or a choice. -/
def selectBackup (o : RestoreOptions) (source : String) :
    Option BackupRecord → Operation BackupRecord
  | none => chooseBackup o.sourceScope source o.instant
  | some b =>
      if b.cluster = source then return b
      else
        throw (.validation
          ("backup " ++ b.name ++ " belongs to cluster " ++ b.cluster ++ ", not " ++ source))

def plan (o : RestoreOptions) : Operation Plan := do
  let named ← namedBackup o
  let cluster ← resolveCluster o.sourceScope (o.sourceCluster.or (named.map (·.cluster)))
  let source := cluster.name
  let backup ← selectBackup o source named
  let window ← Operation.of backup.window
  let instant := o.instant.getD window.latest
  let storageName ← Operation.of (readSource backup)
  let target := targetName o source instant
  Operation.of (Name.check target Name.clusterLimit)
  let namespaceExists ← Operation.namespaceExists o.target
  let clone ← Clone.plan ⟨o.sourceScope, source, o.target, target, some storageName⟩
  return assemble o source backup window instant storageName namespaceExists clone

end Workflow
end PointInTime
