import PointInTime.Resource.Object

/-!
# Cluster definitions

A cluster definition belongs to the database operator and is kept as it came; only a few paths in
it are read.  A clone of it keeps topology and configuration, and loses what ties it to its origin
or would let it write into its origin's backups.
-/

namespace PointInTime

structure StorageCredential where
  storageName : String
  secretName : String
deriving DecidableEq, Repr

structure Cluster where
  object : Object
deriving Repr, Inhabited

namespace Cluster

/-! ## Reading -/

def ofJson? (j : Json) : Option Cluster :=
  (Object.ofJson? j).map Cluster.mk

def toJson (c : Cluster) : Json :=
  c.object.toJson

def name (c : Cluster) : String :=
  c.object.name

def scope (c : Cluster) : Option String :=
  c.object.metadata.scope

def path? (path : List String) (c : Cluster) : Option Json :=
  (Json.obj c.object.data).path? path

/-- The secret with the root credentials; by default the operator names it after the cluster. -/
def secretsName (c : Cluster) : String :=
  ((c.path? ["spec", "secretsName"]).bind Json.asNonEmpty?).getD (c.name ++ "-secrets")

def backends : List String := ["s3", "azure"]

def profileCredentials (storageName : String) (profile : Json) : List StorageCredential :=
  backends.filterMap fun backend =>
    ((profile.path? [backend, "credentialsSecret"]).bind Json.asNonEmpty?).map fun secret =>
      ⟨storageName, secret⟩

def storageCredentials (c : Cluster) : List StorageCredential :=
  match (c.path? ["spec", "backup", "storages"]).bind Json.asObject? with
  | some storages => storages.flatMap fun (name, profile) => profileCredentials name profile
  | none => []

/-- Whether the logs are archived, so that any instant can be recovered. -/
def archivesLogs (c : Cluster) : Bool :=
  ((c.path? ["spec", "backup", "pitr", "enabled"]).bind Json.asBool?).getD false

def state? (c : Cluster) : Option String :=
  (c.path? ["status", "state"]).bind Json.asString?

def readyState : String := "ready"

def isReady (c : Cluster) : Bool :=
  c.state? == some readyState

/-! ## Cloning -/

def pinSecret (secret : String) (data : Assoc Json) : Assoc Json :=
  let data := data.erase "status"
  let data := if data.has "spec" then data else data.set "spec" (.obj [])
  data.modify "spec" (Json.mapFields (Assoc.set "secretsName" (.str secret)))

/-- The backup section with no schedule and with archiving off. -/
def quietBackup (backup : Assoc Json) : Assoc Json :=
  (backup.erase "schedule").modify "pitr" (Json.mapFields (Assoc.set "enabled" (.bool false)))

/-- An independent copy of a definition under another name.  The secret of the root credentials is
named in it, so that the copy does not fall back to one named after itself. -/
def cloneFor (c : Cluster) (scope name : String) : Cluster where
  object :=
    { c.object with
      metadata :=
        ({ c.object.metadata.strip with name := some name, scope := some scope }).annotate
          Mark.clonedFrom (c.scope.getD "" ++ "/" ++ c.name)
      data :=
        (pinSecret c.secretsName c.object.data).modify "spec"
          (Json.mapFieldsAt ["backup"] quietBackup) }

end Cluster
end PointInTime
