import PointInTime.CommandLine.Execution
import PointInTime.CommandLine.Usage
import PointInTime.Procedure.Run
import PointInTime.Server.Rehearsal

/-!
# The program

Reads the command line, carries the command out and prints what there is to print.  No transport is
linked in: every request ends as it does where no server can be reached.
-/

namespace PointInTime
namespace Terminal

open CommandLine

def fileFault : IO.Error → FileFault
  | .noFileOrDirectory .. => .absent
  | .inappropriateType _ code _ => if code = 20 then .notDirectory else .isDirectory
  | .invalidArgument _ code details =>
      if code = 36 then .nameTooLong else .other details
  | e => .other (toString e)

/-- What stands in the file of the configuration.  Its contexts are for a transport to look up, so
the one that was chosen is taken to be there, in a file that is not empty. -/
def configuration (connection : Connection) : IO (Except FileFault Configuration) := do
  let chosen := connection.context.getD "default"
  match connection.kubeconfig with
  | none => return .ok ⟨[chosen], some chosen⟩
  | some path =>
      if path.toList.contains '\x00' then return .error .nulCharacter
      try
        let text ← IO.FS.readFile path
        return .ok (if text = "" then {} else ⟨[chosen], some chosen⟩)
      catch e => return .error (fileFault e)

def refuse (program : Program) (refusal : Refusal) : IO UInt32 := do
  match refusal.text with
  | some text => IO.eprintln ("error: " ++ text)
  | none =>
      if refusal = .versionAsked then IO.println program.name
      else
        for line in program.usage do
          IO.println line
  return refusal.exitCode.toUInt32

def carryOut (connection : Connection) (command : Attended) : IO UInt32 := do
  let file ← configuration connection
  let (completion, _, _) :=
    Procedure.run (I := Server) Demand.unreachable
      (command.execute .epoch connection file) {} 0
  IO.print completion.stdout
  if let some failure := completion.failure then
    IO.eprintln ("error: " ++ failure.message)
  return completion.exitCode.toUInt32

end Terminal
end PointInTime

def main (arguments : List String) : IO UInt32 := do
  let kubeconfig ← IO.getEnv "KUBECONFIG"
  let environment (name : String) : Option String :=
    if name = "KUBECONFIG" then kubeconfig else none
  match PointInTime.CommandLine.Attended.read environment arguments with
  | .error refusal =>
      PointInTime.Terminal.refuse PointInTime.CommandLine.Attended.program refusal
  | .ok (connection, command) => PointInTime.Terminal.carryOut connection command
