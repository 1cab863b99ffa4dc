import PointInTime.Http.MediaType
import PointInTime.Http.Query
import PointInTime.Http.RestoreRequest
import PointInTime.Http.Uri
import PointInTime.Workflow.Restore

/-!
# The HTTP interface

Every address answers one method: what is read is asked for with GET, or with HEAD if the content
is not wanted, and what starts something is posted.  A request that cannot be read is refused with
a status alone; an operation that fails is answered with a status object.
-/

namespace PointInTime
namespace Http

structure Request where
  method : String
  /-- Path and query, with or without the server in front of them. -/
  uri : String
  contentType : Option String := none
  body : String := ""
deriving Repr

inductive Content where
  | nothing
  | text (s : String)
  | json (j : Json)
deriving Repr

structure Response where
  status : Nat
  content : Content := .nothing
deriving Repr

namespace Response

def result (status : Nat) (j : Json) : Response := ⟨status, .json j⟩

def fault (f : Fault) : Response := ⟨f.status.1, .json f.toJson⟩

def refusal (status : Nat) : Response := ⟨status, .nothing⟩

def head (r : Response) : Response := { r with content := .nothing }

end Response

/-! ## Answers -/

def answer {α : Type} (status : Nat) (toJson : α → Json) (operation : Operation α) :
    Procedure Server Response := do
  match ← operation.run with
  | .ok a => return .result status (toJson a)
  | .error e => return .fault (.operation e)

/-- Go on with a field of the query, or refuse the request. -/
def withField {α : Type} (field : Option α) (next : α → Procedure Server Response) :
    Procedure Server Response :=
  match field with
  | some a => next a
  | none => return .refusal 400

def BodyFault.status : BodyFault → Nat
  | .malformed => 400
  | .misshapen => 422

def withBody {α : Type} (request : Request) (known : Fields)
    (ofRecord? : Json.Record → Option α) (next : α → Procedure Server Response) :
    Procedure Server Response :=
  if request.contentType.any MediaType.isJson then
    match Body.read known ofRecord? request.body with
    | .ok a => next a
    | .error fault => return .refusal fault.status
  else return .refusal 415

def withOptions (request : Request) (next : RestoreOptions → Procedure Server Response) :
    Procedure Server Response :=
  withBody request RestoreRequest.fields RestoreRequest.ofRecord? fun r =>
    match r.options with
    | .ok options => next options
    | .error f => return .fault f

/-! ## Addresses -/

inductive Route where
  | backups
  | namespaceCheck
  | namespaceCreate
  | restore
  | restorePlan
  | restoreStatus
  | restoreSummary
  | clusterStatus
  | health
deriving DecidableEq, Repr

namespace Route

def ofPath? : String → Option Route
  | "/backups" => some backups
  | "/namespace/check" => some namespaceCheck
  | "/namespace/create" => some namespaceCreate
  | "/restore" => some restore
  | "/restore/plan" => some restorePlan
  | "/restore/status" => some restoreStatus
  | "/restore/summary" => some restoreSummary
  | "/cluster/status" => some clusterStatus
  | "/healthz" => some health
  | _ => none

def isPosted : Route → Bool
  | namespaceCreate => true
  | restore => true
  | restorePlan => true
  | _ => false

def respond (query : String) (request : Request) : Route → Procedure Server Response
  | backups =>
      withField (Query.required "env" query) fun env => do
        return .result 200 (.arr ((← Workflow.listBackups env).map BackupListing.toJson))
  | namespaceCheck =>
      withField (Query.required "env" query) fun env =>
        withField (Query.optional "cluster" query) fun cluster =>
          answer 200 Workflow.NamespaceStatus.toJson (Workflow.checkNamespace env cluster)
  | namespaceCreate =>
      withBody request NamespaceRequest.fields NamespaceRequest.ofRecord? fun r =>
        answer 201 (fun _ => r.toJson) (Workflow.createNamespace r.env)
  | restore =>
      withOptions request fun o => answer 202 Workflow.Submission.toJson (Workflow.execute o)
  | restorePlan =>
      withOptions request fun o => answer 200 Workflow.Plan.toJson (Workflow.plan o)
  | restoreStatus =>
      withField (Query.required "env" query) fun env =>
        withField (Query.required "name" query) fun name =>
          answer 200 Job.Status.toJson (Job.status env name)
  | restoreSummary =>
      withField (Query.required "env" query) fun env =>
        withField (Query.required "cluster" query) fun cluster =>
          answer 200 DatabaseSummary.toJson (Workflow.summary env cluster)
  | clusterStatus =>
      withField (Query.required "env" query) fun env =>
        withField (Query.required "cluster" query) fun cluster =>
          answer 200 Workflow.ClusterStatus.toJson (Workflow.clusterStatus env cluster)
  | health => return ⟨200, .text "ok"⟩

end Route

def respondAt (target : Target) (request : Request) : Procedure Server Response :=
  let query := String.ofList target.query
  match Route.ofPath? (String.ofList target.path) with
  | none => return .refusal 404
  | some route =>
      if route.isPosted then
        if request.method = "POST" then route.respond query request else return .refusal 405
      else if request.method = "GET" then route.respond query request
      else if request.method = "HEAD" then do
        return (← route.respond query request).head
      else return .refusal 405

/-- The answer to a request; one whose address cannot be read is a bad one. -/
def respond (request : Request) : Procedure Server Response :=
  match Target.ofUri? request.uri with
  | some target => respondAt target request
  | none => return .refusal 400

end Http
end PointInTime
