import PointInTime.CommandLine.FileTree
import PointInTime.CommandLine.Grammar
import PointInTime.Error

/-!
# Finding the server

Which server a command talks to is written in a configuration file, as a context, and one of them
is current.  The file and the context may be given for any command; whatever is wrong with them ends
it before the first request.
-/

namespace PointInTime
namespace CommandLine

structure Connection where
  kubeconfig : Option String := none
  context : Option String := none
deriving DecidableEq, Repr

structure Configuration where
  contexts : List String := []
  current : Option String := none
deriving DecidableEq, Repr

namespace Connection

/-- A path has to have a name. -/
def checkPath (path : String) : Option Refusal :=
  if path = "" then some .invalidValue else none

def anyText (_ : String) : Option Refusal := none

def options : List Opt :=
  [{ long := "kubeconfig", action := .value checkPath, envVar := some "KUBECONFIG" },
    { long := "context", action := .value anyText }]

def ofReading (r : Reading) : Connection :=
  ⟨r.values "kubeconfig", r.values "context"⟩

def failure (message : String) : Error :=
  .internal "create_client" message

def unreadable (path : String) (fault : FileFault) : Error :=
  failure
    ("failed to read kubeconfig " ++ path ++ ": failed to read kubeconfig from '" ++
      Text.quoted path ++ "': " ++ fault.message)

def check (c : Connection) (file : Except FileFault Configuration) : Except Error Unit :=
  match file with
  | .error fault => .error (unreadable (c.kubeconfig.getD "") fault)
  | .ok configuration =>
      match c.context.or configuration.current with
      | none => .error (failure "failed to determine current context")
      | some name =>
          if configuration.contexts.contains name then .ok ()
          else .error (failure ("failed to load current context: " ++ name))

end Connection

/-! ## Options of all programs -/

def helpOption : Opt := { long := "help", short := some 'h', action := .help }

def versionOption : Opt := { long := "version", short := some 'V', action := .version }

def textOption (long : String) : Opt :=
  { long := long, action := .value Connection.anyText }

def checkDuration (s : String) : Option Refusal :=
  match Duration.parse s with
  | .ok _ => none
  | .error _ => some .unreadableValue

def durationOption (long : String) : Opt :=
  { long := long, action := .value checkDuration }

namespace Reading

def duration (r : Reading) (long : String) (default : Duration) : Duration :=
  ((r.values long).bind fun s => Duration.ofGiven? s.toList).getD default

def isSet (r : Reading) (long : String) : Bool :=
  (r.values long).isSome

end Reading

/-- A program with the options that all have. -/
def Program.of (name : String) (subcommands : List (String × List Opt)) : Program where
  name := name
  options := Connection.options ++ [helpOption, versionOption]
  subcommands :=
    subcommands.map fun (name, options) =>
      ⟨name, options ++ Connection.options ++ [helpOption]⟩

end CommandLine
end PointInTime
