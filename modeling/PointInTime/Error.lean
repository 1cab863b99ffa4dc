import PointInTime.Duration
import PointInTime.Instant.Rfc3339
import PointInTime.Text.Quoted

/-!
# Errors

An error says who has to act: the caller asked for something that is not there or not allowed, an
object is in the way for now, another system failed, or a wait ended too early.  The wording of
each is in one function, and whether a repetition may help is a property of the cause alone.
-/

namespace PointInTime

inductive ServerFault where
  /-- The server answered with a refusal. -/
  | refused (code : Nat) (reason message : String)
  /-- The server did not open the stream that a command needs. -/
  | notUpgraded (detail : String)
  /-- No usable answer came back. -/
  | unanswered (detail : String)
deriving DecidableEq, Repr

inductive Error where
  | server (fault : ServerFault)
  | notFound (kind name : String) (scope : Option String)
  | outOfRange (requested earliest latest : Instant)
  | conflict (message : String)
  | externalFailure (message : String)
  | timeout (message : String)
  | validation (message : String)
  | unreadable (kind : Option String) (message : String)
  | internal (context message : String)
deriving DecidableEq

namespace ServerFault

/-- A refusal as the server worded it, followed by all its fields. -/
def message : ServerFault → String
  | refused code reason message =>
      "ApiError: " ++ message ++ ": " ++ reason ++
        " (ErrorResponse \x7b status: \"Failure\", message: " ++ Text.quoted message ++
        ", reason: " ++ Text.quoted reason ++ ", code: " ++ toString code ++ " \x7d)"
  | notUpgraded detail => "failed to upgrade to a WebSocket connection: " ++ detail
  | unanswered detail => detail

end ServerFault

namespace Error

def missing (kind name scope : String) : Error :=
  .notFound kind name (some scope)

def message : Error → String
  | server fault => "kubernetes error: " ++ fault.message
  | notFound kind name scope =>
      kind ++ " not found: " ++ name ++
        match scope with
        | some ns => " (namespace " ++ ns ++ ")"
        | none => ""
  | outOfRange requested earliest latest =>
      "recovery instant " ++ requested.format ++ " is outside the recovery window [" ++
        earliest.format ++ ", " ++ latest.format ++ "]"
  | conflict message => "conflict: " ++ message
  | externalFailure message => "external failure: " ++ message
  | timeout message => "timed out: " ++ message
  | validation message => "validation error: " ++ message
  | unreadable _ message => "serialization error: " ++ message
  | internal context message => "internal error [" ++ context ++ "]: " ++ message

/-- Whether repeating the failed operation may help.  A server that refuses a request as the
caller's fault will do so again. -/
def isRetryable : Error → Bool
  | server (.refused code _ _) => !(400 ≤ code && code < 500)
  | server _ => true
  | notFound .. => false
  | outOfRange .. => false
  | conflict _ => true
  | externalFailure _ => true
  | timeout _ => true
  | validation _ => false
  | unreadable .. => false
  | internal .. => true

/-- Whether something does not exist, said by this library or by the server. -/
def isNotFound : Error → Bool
  | notFound .. => true
  | server (.refused code _ _) => code == 404
  | _ => false

end Error

/-! ## What people give -/

def Instant.parse (input : String) : Except Error Instant :=
  match Instant.ofGiven? input.toList with
  | some t => .ok t
  | none =>
      .error (.validation
        ("invalid timestamp '" ++ input ++ "', expected UTC 'YYYY-MM-DD HH:MM:SS'"))

def Duration.parse (input : String) : Except Error Duration :=
  match Duration.ofGiven? input.toList with
  | some d => .ok d
  | none =>
      .error (.validation
        ("invalid duration '" ++ input ++ "', expected e.g. 2h, 5m, 10s"))

end PointInTime
