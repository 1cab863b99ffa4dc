import PointInTime.Server.Address

/-!
# Writes

The requests that change the server, as they are sent: what is created is posted, what is applied
is patched in the name of a field manager, which for a configuration takes over what others set.
A patch bears the name and the parameters that are left in its address.
-/

namespace PointInTime

inductive Write.Verb where
  | post
  | patch
deriving DecidableEq, Repr

structure Write where
  verb : Write.Verb
  resource : Resource.Kind
  /-- Empty for what belongs to no namespace. -/
  scope : String
  name : String
  params : List (String × String) := []
  body : Json
deriving Repr

namespace Write

def operatorKind (kind : String) : Resource.Kind :=
  .of Resource.Kind.operatorVersion kind

def creation (kind : String) (scope name : String) (body : Json) : Write :=
  ⟨.post, operatorKind kind, scope, name, [], body⟩

def of? : Request → Option Write
  | .createCluster c =>
      some (creation Resource.Kind.cluster (c.scope.getD "") c.name c.toJson)
  | .createSecret scope s =>
      some ⟨.post, .of "v1" "Secret", scope, s.metadata.name.getD "", [], s.toJson⟩
  | .createNamespace name =>
      some ⟨.patch, .of "v1" "Namespace", "", name, (Request.createNamespace name).params,
        Namespace.toJson name⟩
  | .createRestore r =>
      some (creation Resource.Kind.restore r.metadata.scope r.metadata.name r.toJson)
  | .applyConfig scope name manager data =>
      some ⟨.patch, .of "v1" "ConfigMap", scope, name,
        (Request.applyConfig scope name manager data).params, ConfigMap.toJson scope name data⟩
  | _ => none

theorem isSome_of? (r : Request) : (of? r).isSome = r.isWrite := by
  cases r <;> rfl

/-- A write as it arrives: the name of what is patched and the parameters are those of its
target. -/
def sentTo (t : Http.Target) (w : Write) : Write :=
  match w.verb with
  | .post => w
  | .patch =>
      { w with
        name := Request.lastPart t
        params := Http.Query.pairs (String.ofList t.query) }

end Write
end PointInTime
