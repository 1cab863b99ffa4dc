import PointInTime.Error
import PointInTime.Json.Basic

/-!
# Errors of the HTTP interface

Each error is answered with a status code, a reason in one word and a status object that carries
both and the message.
-/

namespace PointInTime
namespace Http

inductive Fault where
  | operation (error : Error)
  | badRequest (message : String)
  | stopped (message : String)
deriving DecidableEq

abbrev Status := Nat × String

/-- Who has to act on an error, as a status. -/
def statusOf : Error → Status
  | .notFound .. => (404, "NotFound")
  | .outOfRange .. => (400, "OutOfRange")
  | .validation _ => (400, "Invalid")
  | .conflict _ => (409, "Conflict")
  | .externalFailure _ => (502, "ExternalFailure")
  | .timeout _ => (504, "Timeout")
  | _ => (500, "InternalError")

namespace Fault

def status : Fault → Status
  | operation e => statusOf e
  | badRequest _ => (400, "BadRequest")
  | stopped _ => (500, "InternalError")

def message : Fault → String
  | operation e => e.message
  | badRequest message => "bad request: " ++ message
  | stopped message => "server error: " ++ message

def toJson (f : Fault) : Json :=
  .obj
    [("kind", .str "Status"), ("apiVersion", .str "v1"), ("status", .str "Failure"),
      ("message", .str f.message), ("reason", .str f.status.2), ("code", .nat f.status.1)]

end Fault
end Http
end PointInTime
