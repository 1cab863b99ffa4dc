import PointInTime.Server.Store

/-!
# Replies with a code

A server replies with a code and, if the code allows content, with an object.  A code of refusal
makes the reply an error, with the reason and the message in the object.  Any other code is taken
for success, and the object for the one that was asked for: where that needs little, a status object
passes for it, and otherwise the reply cannot be read.
-/

namespace PointInTime

def statusObject (code : Nat) (reason message : String) : Json :=
  .obj
    [("apiVersion", .str "v1"), ("code", .num ⟨code, 0⟩), ("kind", .str "Status"),
      ("message", .str message), ("metadata", .obj []), ("reason", .str reason),
      ("status", .str "Failure")]

namespace Request

def isRefusal (code : Nat) : Bool :=
  400 ≤ code && code < 600

def hasContent (code : Nat) : Bool :=
  code != 204 && code != 304

def created (content : Json) : Except Error Unit :=
  (Store.readOne Object.ofJson? (some content)).map fun _ => ()

/-- What a request makes of content that holds one object, which is no list and no namespace. -/
def accepted (code : Nat) (content : Json) : (r : Request) → Except Error r.Value
  | listBackups _ => .error Store.garbled
  | getCluster _ _ => Store.readOne Cluster.ofJson? (some content)
  | listClusters _ => .error Store.garbled
  | createCluster _ => created content
  | getSecret _ _ => Store.readOne Secret.ofJson? (some content)
  | createSecret _ _ => (Store.readOne Secret.ofJson? (some content)).map fun _ => ()
  | namespaceExists _ => .error Store.garbled
  | createNamespace _ => .error Store.garbled
  | createRestore _ => created content
  | getRestore _ _ => Store.readRestore (some content)
  | listRestores _ => .error Store.garbled
  | getConfig _ _ => Store.readOne ConfigMap.dataOfJson? (some content)
  | applyConfig .. => (Store.readOne ConfigMap.dataOfJson? (some content)).map fun _ => ()
  | exec .. => .error (notUpgraded code)

/-- What a reply with a code gives, whose content is at most a status object. -/
def replied (r : Request) (code : Nat) (reason message : String) : Except Error r.Value :=
  if isRefusal code then r.refused code reason message
  else if hasContent code then r.accepted code (statusObject code reason message)
  else r.accepted code .null

end Request
end PointInTime
