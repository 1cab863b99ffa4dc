import PointInTime.CommandLine.Grammar

/-!
# Usage

What someone sees who asks for help, or whose command line is refused: the options of a program
under its subcommands, or a sentence on what is wrong.
-/

namespace PointInTime
namespace CommandLine

def Opt.usage (o : Opt) : String :=
  match o.action with
  | .value _ => "--" ++ o.long ++ " <VALUE>"
  | _ => "--" ++ o.long

/-- A subcommand on a line of its own, above its options. -/
def Subcommand.usage (c : Subcommand) : List String :=
  ("  " ++ c.name) :: c.options.map fun o => "      " ++ o.usage

def Program.usage (program : Program) : List String :=
  ("Usage: " ++ program.name ++ " <COMMAND> [OPTIONS]") ::
    program.subcommands.flatMap Subcommand.usage

namespace Refusal

/-- What is wrong, or nothing where help was asked for. -/
def text : Refusal → Option String
  | helpAsked => none
  | versionAsked => none
  | helpNeeded => none
  | missingSubcommand => some "a subcommand is missing"
  | unknownSubcommand => some "there is no such subcommand"
  | unknownArgument => some "there is no such argument"
  | missingOption => some "an option that has to be given is missing"
  | invalidValue => some "a value is missing or not one of those that are possible"
  | unreadableValue => some "a value cannot be read"
  | needlessValue => some "a value was given to an option that takes none"
  | repeated => some "an option was given twice"

/-- Whether nothing is wrong: someone asked for help or for the version. -/
def isRequest : Refusal → Bool
  | helpAsked => true
  | versionAsked => true
  | _ => false

def exitCode (r : Refusal) : Nat :=
  if r.isRequest then 0 else 2

end Refusal
end CommandLine
end PointInTime
