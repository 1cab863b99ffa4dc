import PointInTime.Http.Query
import PointInTime.Http.Uri
import PointInTime.Server.Request

/-!
# Addresses of requests

The names in a request become parts of its address as they are.  What no address can hold makes a
request impossible to send, and so does the lack of a name for what has one.  A question mark or a
hash mark ends the path, so that a request may arrive elsewhere than its names say.
-/

namespace PointInTime
namespace Request

/-! ## Addresses -/

/-- The name of the one object a request is addressed to; what is created has no address yet. -/
def addressee? : Request → Option String
  | getCluster _ name => some name
  | getSecret _ name => some name
  | namespaceExists name => some name
  | createNamespace name => some name
  | getRestore _ name => some name
  | getConfig _ name => some name
  | applyConfig _ name _ _ => some name
  | exec _ pod _ _ => some pod
  | _ => none

def pathParts : Request → List String
  | listBackups scope => [scope, Resource.plural Resource.Kind.backup]
  | getCluster scope name => [scope, Resource.plural Resource.Kind.cluster, name]
  | listClusters scope => [scope, Resource.plural Resource.Kind.cluster]
  | createCluster c => [c.scope.getD "", Resource.plural Resource.Kind.cluster]
  | getSecret scope name => [scope, "secrets", name]
  | createSecret scope _ => [scope, "secrets"]
  | namespaceExists name => [name]
  | createNamespace name => [name]
  | createRestore r => [r.metadata.scope, Resource.plural Resource.Kind.restore]
  | getRestore scope name => [scope, Resource.plural Resource.Kind.restore, name]
  | listRestores scope => [scope, Resource.plural Resource.Kind.restore]
  | getConfig scope name => [scope, "configmaps", name]
  | applyConfig scope name _ _ => [scope, "configmaps", name]
  | exec scope pod _ _ => [scope, "pods", pod, "exec"]

def namespaceManager : String := "rewind-workflow"

def params : Request → List (String × String)
  | createNamespace _ => [("fieldManager", namespaceManager)]
  | applyConfig _ _ manager _ => [("fieldManager", manager), ("force", "true")]
  | _ => []

def target? (r : Request) : Option Http.Target :=
  if r.addressee? = some "" then none
  else
    Http.Target.ofText?
      ("/".intercalate r.pathParts ++ "?&" ++ Http.Query.render r.params).toList

def unaddressable : Error :=
  .server (.unanswered "no address can be made of the request")

/-! ## Arrival -/

inductive Arrival where
  /-- Where it was sent to, under what is left of the last name in its path. -/
  | reached (name : String)
  /-- At a namespace, where the name of one was cut. -/
  | strayed (scope : String)
  | nowhere
deriving DecidableEq, Repr

/-- Whether a request is about objects that the API server itself knows, next to namespaces. -/
def isCore : Request → Bool
  | getSecret .. => true
  | createSecret .. => true
  | getConfig .. => true
  | applyConfig .. => true
  | exec .. => true
  | _ => false

def lastPart (t : Http.Target) : String :=
  t.parts.getLast?.getD ""

def arrival (r : Request) (t : Http.Target) : Arrival :=
  if lastPart t = "" then .nowhere
  else if t.parts.dropLast = r.pathParts.dropLast then .reached (lastPart t)
  else if t.parts.length = 1 && r.isCore then .strayed (lastPart t)
  else .nowhere

end Request
end PointInTime
