import PointInTime.Server.Request

/-!
# Refusals and what they mean

A server refuses a request with a code.  Some refusals are answers: what cannot be found when it is
read does not exist, and what is already there when it is created is a conflict that a later
attempt may not meet.  Every other refusal is an error.
-/

namespace PointInTime
namespace Request

def alreadyExists (what name : String) : Error :=
  .conflict (what ++ " " ++ name ++ " already exists")

def notFoundCode : Nat := 404

def conflictCode : Nat := 409

def refusedCreation (what name : String) (code : Nat) (reason message : String) :
    Except Error Unit :=
  if code = conflictCode then .error (alreadyExists what name)
  else .error (.server (.refused code reason message))

/-- A refused reading of one object, for which `absent` says that it does not exist. -/
def refusedReading {α : Type} (absent : α) (code : Nat) (reason message : String) :
    Except Error α :=
  if code = notFoundCode then .ok absent else .error (.server (.refused code reason message))

def codeNames : List (Nat × String) :=
  [(200, "OK"),
    (201, "Created"),
    (202, "Accepted"),
    (203, "Non Authoritative Information"),
    (204, "No Content"),
    (205, "Reset Content"),
    (206, "Partial Content"),
    (207, "Multi-Status"),
    (208, "Already Reported"),
    (226, "IM Used"),
    (300, "Multiple Choices"),
    (301, "Moved Permanently"),
    (302, "Found"),
    (303, "See Other"),
    (304, "Not Modified"),
    (305, "Use Proxy"),
    (307, "Temporary Redirect"),
    (308, "Permanent Redirect"),
    (400, "Bad Request"),
    (401, "Unauthorized"),
    (402, "Payment Required"),
    (403, "Forbidden"),
    (404, "Not Found"),
    (405, "Method Not Allowed"),
    (406, "Not Acceptable"),
    (407, "Proxy Authentication Required"),
    (408, "Request Timeout"),
    (409, "Conflict"),
    (410, "Gone"),
    (411, "Length Required"),
    (412, "Precondition Failed"),
    (413, "Payload Too Large"),
    (414, "URI Too Long"),
    (415, "Unsupported Media Type"),
    (416, "Range Not Satisfiable"),
    (417, "Expectation Failed"),
    (418, "I'm a teapot"),
    (421, "Misdirected Request"),
    (422, "Unprocessable Entity"),
    (423, "Locked"),
    (424, "Failed Dependency"),
    (425, "Too Early"),
    (426, "Upgrade Required"),
    (428, "Precondition Required"),
    (429, "Too Many Requests"),
    (431, "Request Header Fields Too Large"),
    (451, "Unavailable For Legal Reasons"),
    (500, "Internal Server Error"),
    (501, "Not Implemented"),
    (502, "Bad Gateway"),
    (503, "Service Unavailable"),
    (504, "Gateway Timeout"),
    (505, "HTTP Version Not Supported"),
    (506, "Variant Also Negotiates"),
    (507, "Insufficient Storage"),
    (508, "Loop Detected"),
    (510, "Not Extended"),
    (511, "Network Authentication Required")]

def statusLine (code : Nat) : String :=
  toString code ++ " " ++
    match codeNames.find? fun (c, _) => c = code with
    | some (_, name) => name
    | none => "<unknown status code>"

def switchCode : Nat := 101

/-- The code that a server ends with: one that only informs ends nothing, and the server fails. -/
def finalCode (code : Nat) : Nat :=
  if 100 ≤ code && code < 200 then 500 else code

def notUpgraded (code : Nat) : Error :=
  .server <| .notUpgraded <|
    if code = switchCode then "upgrade header was not set to websocket"
    else "failed to switch protocol: " ++ statusLine (finalCode code)

/-- The reason for what cannot be found: namespaces are looked for by it and not by the code. -/
def notFoundReason : String := "NotFound"

def refusedLook (code : Nat) (reason message : String) : Except Error Bool :=
  if reason = notFoundReason then .ok false else .error (.server (.refused code reason message))

def refused (code : Nat) (reason message : String) : (r : Request) → Except Error r.Value
  | listBackups _ => .error (.server (.refused code reason message))
  | getCluster _ _ => refusedReading none code reason message
  | listClusters _ => .error (.server (.refused code reason message))
  | createCluster c => refusedCreation "cluster" c.name code reason message
  | getSecret _ _ => refusedReading none code reason message
  | createSecret _ s => refusedCreation "secret" (s.metadata.name.getD "") code reason message
  | namespaceExists _ => refusedLook code reason message
  | createNamespace _ => .error (.server (.refused code reason message))
  | createRestore r => refusedCreation "restore" r.metadata.name code reason message
  | getRestore _ _ => refusedReading none code reason message
  | listRestores _ => .error (.server (.refused code reason message))
  | getConfig _ _ => refusedReading none code reason message
  | applyConfig .. => .error (.server (.refused code reason message))
  | exec .. => .error (notUpgraded code)

end Request
end PointInTime
