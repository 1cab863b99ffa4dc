import PointInTime.Server.Request

/-!
# Cloning an environment

The definition of a cluster and the secrets it names are copied to another namespace.  The secrets
go first: the operator makes fresh root credentials for a cluster that finds none, and the data
would be out of reach.  A secret that the restore cannot do without is essential, and when it can
be neither found nor copied, the cluster is not created.  All others are warned about.
-/

namespace PointInTime
namespace Clone

structure Request where
  sourceScope : String
  sourceCluster : String
  targetScope : String
  targetCluster : String
  /-- The storage profile that the restore will read from. -/
  restoreStorage : Option String
deriving DecidableEq, Repr

/-! ## Credentials -/

structure CredentialRef where
  secret : String
  essential : Bool
  purpose : String
deriving DecidableEq, Repr

def rootRef (c : Cluster) : CredentialRef :=
  ⟨c.secretsName, true, "root credentials"⟩

/-- Add a storage credential: a secret that is already listed is not listed again, and becomes
essential if one of its uses is. -/
def addCredential (restoreStorage : Option String) (refs : List CredentialRef)
    (cred : StorageCredential) : List CredentialRef :=
  let essential := restoreStorage == some cred.storageName
  if refs.any (·.secret == cred.secretName) then
    refs.map fun r =>
      if r.secret = cred.secretName then { r with essential := r.essential || essential } else r
  else refs ++ [⟨cred.secretName, essential, "storage " ++ cred.storageName⟩]

def credentialRefs (c : Cluster) (restoreStorage : Option String) : List CredentialRef :=
  c.storageCredentials.foldl (addCredential restoreStorage) [rootRef c]

/-! ## Planning -/

structure CredentialPlan where
  secret : String
  essential : Bool
  purpose : String
  inSource : Bool
  inTarget : Bool
deriving DecidableEq, Repr

namespace CredentialPlan

def willCopy (c : CredentialPlan) : Bool :=
  c.inSource && !c.inTarget

def isBlocking (c : CredentialPlan) : Bool :=
  c.essential && !c.inSource && !c.inTarget

def toJson (c : CredentialPlan) : Json :=
  .obj
    [("secret", .str c.secret), ("essential", .bool c.essential), ("purpose", .str c.purpose),
      ("inSource", .bool c.inSource), ("inTarget", .bool c.inTarget)]

end CredentialPlan

structure Preview where
  sourceScope : String
  sourceCluster : String
  targetScope : String
  targetCluster : String
  collision : Bool
  credentials : List CredentialPlan
deriving DecidableEq, Repr

def Preview.missingEssential (p : Preview) : List CredentialPlan :=
  p.credentials.filter (·.isBlocking)

def Preview.toJson (p : Preview) : Json :=
  .obj
    [("sourceNamespace", .str p.sourceScope), ("sourceCluster", .str p.sourceCluster),
      ("targetNamespace", .str p.targetScope), ("targetCluster", .str p.targetCluster),
      ("collision", .bool p.collision),
      ("credentials", .arr (p.credentials.map CredentialPlan.toJson))]

def source (req : Request) : Operation Cluster := do
  Operation.orMissing (.missing "cluster" req.sourceCluster req.sourceScope)
    (← Operation.getCluster req.sourceScope req.sourceCluster)

def planCredential (req : Request) (ref : CredentialRef) : Operation CredentialPlan := do
  let inSource ← Operation.getSecret req.sourceScope ref.secret
  let inTarget ← Operation.getSecret req.targetScope ref.secret
  return ⟨ref.secret, ref.essential, ref.purpose, inSource.isSome, inTarget.isSome⟩

def plan (req : Request) : Operation Preview := do
  let cluster ← source req
  let existing ← Operation.getCluster req.targetScope req.targetCluster
  let credentials ← (credentialRefs cluster req.restoreStorage).mapM (planCredential req)
  return ⟨req.sourceScope, req.sourceCluster, req.targetScope, req.targetCluster,
    existing.isSome, credentials⟩

/-! ## Cloning -/

structure Report where
  scope : String
  clusterName : String
  copied : List String := []
  existing : List String := []
  warnings : List String := []
deriving DecidableEq, Repr

def Report.toJson (r : Report) : Json :=
  .obj
    [("namespace", .str r.scope), ("clusterName", .str r.clusterName),
      ("copiedSecrets", .arr (r.copied.map .str)),
      ("existingSecrets", .arr (r.existing.map .str)),
      ("warnings", .arr (r.warnings.map .str))]

def collision (scope cluster : String) : Error :=
  .conflict ("cluster " ++ cluster ++ " already exists in " ++ scope)

/-- Create the copy of a secret; whether it was created here.  One that someone else has created in
the meantime is left as it is. -/
def createCopy (req : Request) (secret : Secret) : Operation Bool :=
  ExceptT.mk do
    match ← (Operation.createSecret req.targetScope
        (secret.copyTo req.sourceScope req.targetScope)).run with
    | .ok () => return .ok true
    | .error (.conflict _) => return .ok false
    | .error e => return .error e

/-- Copy one secret unless the target has it; whether it was copied. -/
def copySecret (req : Request) (name : String) : Operation Bool := do
  match ← Operation.getSecret req.targetScope name with
  | some _ => return false
  | none =>
      let secret ← Operation.orMissing (.missing "secret" name req.sourceScope)
        (← Operation.getSecret req.sourceScope name)
      createCopy req secret

/-- Copy one secret and note what became of it; a failure with an essential one ends the clone. -/
def copyCredential (req : Request) (report : Report) (ref : CredentialRef) : Operation Report :=
  ExceptT.mk do
    match ← (copySecret req ref.secret).run with
    | .ok true => return .ok { report with copied := report.copied ++ [ref.secret] }
    | .ok false => return .ok { report with existing := report.existing ++ [ref.secret] }
    | .error e =>
        if ref.essential then
          return .error (.externalFailure
            ("copying " ++ ref.purpose ++ " secret " ++ ref.secret ++ ": " ++ e.message))
        else
          let warning := ref.purpose ++ " secret " ++ ref.secret ++ " not copied: " ++ e.message
          return .ok { report with warnings := report.warnings ++ [warning] }

/-- Copy the secrets, then create the cluster. -/
def run (req : Request) : Operation Report := do
  let cluster ← source req
  if (← Operation.getCluster req.targetScope req.targetCluster).isSome then
    throw (collision req.targetScope req.targetCluster)
  let report ← (credentialRefs cluster req.restoreStorage).foldlM (copyCredential req)
    { scope := req.targetScope, clusterName := req.targetCluster }
  Operation.createCluster (cluster.cloneFor req.targetScope req.targetCluster)
  return report

end Clone
end PointInTime
