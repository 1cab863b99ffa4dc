import PointInTime.Error
import PointInTime.Text.Blank
import PointInTime.Text.Utf8

/-!
# Commands in pods

A command that runs in a pod writes two streams and ends with a status, unless the connection
closes before.  Its standard output is the result; what it complains about is the error.
-/

namespace PointInTime

structure CommandResult where
  stdout : List UInt8 := []
  stderr : List UInt8 := []
  /-- Absent where the connection closed without one. -/
  status : Option String := some "Success"
  message : Option String := none
deriving Repr, Inhabited

namespace CommandResult

def textOf (stream : String) (bytes : List UInt8) : Except Error String :=
  match Text.Utf8.decode bytes with
  | .ok s => .ok s
  | .error f => .error (.externalFailure ("reading exec " ++ stream ++ ": " ++ f.message))

/-- What a failed command complained about, or what the server said of it. -/
def complaint (stderr : String) (message : Option String) : String :=
  let trimmed := Text.trim stderr.toList
  if trimmed = [] then message.getD "" else String.ofList trimmed

def output (scope pod : String) (r : CommandResult) : Except Error String := do
  let stdout ← textOf "stdout" r.stdout
  let stderr ← textOf "stderr" r.stderr
  if r.status = some "Failure" then
    throw (.externalFailure
      ("command in " ++ scope ++ "/" ++ pod ++ " failed: " ++ complaint stderr r.message))
  return stdout

end CommandResult
end PointInTime
