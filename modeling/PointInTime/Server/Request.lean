import PointInTime.Procedure.Basic
import PointInTime.Error
import PointInTime.Resource.Cluster
import PointInTime.Resource.Restore
import PointInTime.Resource.Secret

/-!
# Requests to the API server

Everything that is read from or written to the server, each as one request with the type of its
answer.  Every request to the server may fail.  One request goes elsewhere and cannot: the stamp of
a new job, which is the time of day and a nonce.
-/

namespace PointInTime

structure Stamp where
  time : Instant
  nonce : String
deriving DecidableEq

inductive Request where
  | listBackups (scope : String)
  | getCluster (scope name : String)
  | listClusters (scope : String)
  | createCluster (cluster : Cluster)
  | getSecret (scope name : String)
  | createSecret (scope : String) (secret : Secret)
  | namespaceExists (name : String)
  | createNamespace (name : String)
  | createRestore (restore : Restore)
  | getRestore (scope name : String)
  | listRestores (scope : String)
  | getConfig (scope name : String)
  | applyConfig (scope name manager : String) (data : Assoc String)
  | exec (scope pod container : String) (command : List String)

namespace Request

/-- What a request that succeeds gives: nothing for an object that does not exist. -/
def Value : Request → Type
  | listBackups _ => List Backup
  | getCluster _ _ => Option Cluster
  | listClusters _ => List Cluster
  | createCluster _ => Unit
  | getSecret _ _ => Option Secret
  | createSecret _ _ => Unit
  | namespaceExists _ => Bool
  | createNamespace _ => Unit
  | createRestore _ => Unit
  | getRestore _ _ => Option Restore
  | listRestores _ => List Restore
  | getConfig _ _ => Option (Assoc String)
  | applyConfig .. => Unit
  | exec .. => String

def words : Request → List String
  | listBackups scope => ["list_backups", scope]
  | getCluster scope name => ["get_cluster", scope, name]
  | listClusters scope => ["list_clusters", scope]
  | createCluster c => ["create_cluster", c.scope.getD "", c.name]
  | getSecret scope name => ["get_secret", scope, name]
  | createSecret scope s => ["create_secret", scope, s.metadata.name.getD ""]
  | namespaceExists name => ["namespace_exists", name]
  | createNamespace name => ["create_namespace", name]
  | createRestore r => ["create_restore", r.metadata.scope, r.metadata.name]
  | getRestore scope name => ["get_restore", scope, name]
  | listRestores scope => ["list_restores", scope]
  | getConfig scope name => ["get_config_map_data", scope, name]
  | applyConfig scope name _ _ => ["apply_config_map_data", scope, name]
  | exec scope pod container _ => ["exec_in_pod", scope, pod, container]

def isWrite : Request → Bool
  | createCluster _ => true
  | createSecret _ _ => true
  | createNamespace _ => true
  | createRestore _ => true
  | applyConfig .. => true
  | _ => false

end Request

/-- What procedures ask for: a request to the server, which may fail, or a stamp. -/
inductive Demand where
  | server (r : Request)
  | stamp

def Demand.Answer : Demand → Type
  | server r => Except Error r.Value
  | stamp => Stamp

abbrev Server : Interface := ⟨Demand, Demand.Answer⟩

/-- A procedure that talks to the server and may fail; a failure ends it. -/
abbrev Operation := ExceptT Error (Procedure Server)

namespace Operation

variable {α : Type}

def of (outcome : Except Error α) : Operation α :=
  ExceptT.mk (.done outcome)

def orMissing (e : Error) : Option α → Operation α
  | some a => of (.ok a)
  | none => of (.error e)

def send (r : Request) : Operation r.Value :=
  ExceptT.mk (Procedure.request (I := Server) (.server r))

/-! ## Single requests -/

def listBackups (scope : String) : Operation (List Backup) :=
  send (.listBackups scope)

def getCluster (scope name : String) : Operation (Option Cluster) :=
  send (.getCluster scope name)

def listClusters (scope : String) : Operation (List Cluster) :=
  send (.listClusters scope)

def createCluster (c : Cluster) : Operation Unit :=
  send (.createCluster c)

def getSecret (scope name : String) : Operation (Option Secret) :=
  send (.getSecret scope name)

def createSecret (scope : String) (s : Secret) : Operation Unit :=
  send (.createSecret scope s)

def namespaceExists (name : String) : Operation Bool :=
  send (.namespaceExists name)

def createNamespace (name : String) : Operation Unit :=
  send (.createNamespace name)

def createRestore (r : Restore) : Operation Unit :=
  send (.createRestore r)

def getRestore (scope name : String) : Operation (Option Restore) :=
  send (.getRestore scope name)

def listRestores (scope : String) : Operation (List Restore) :=
  send (.listRestores scope)

def getConfig (scope name : String) : Operation (Option (Assoc String)) :=
  send (.getConfig scope name)

def applyConfig (scope name manager : String) (data : Assoc String) : Operation Unit :=
  send (.applyConfig scope name manager data)

def exec (scope pod container : String) (command : List String) : Operation String :=
  send (.exec scope pod container command)

end Operation

def Procedure.newStamp : Procedure Server Stamp :=
  Procedure.request (I := Server) .stamp

end PointInTime
