import PointInTime.Assoc

/-!
# Command lines

A program has options and subcommands, and a subcommand has options, some of them the same.  An
option that takes a value has it after an equals sign or as the next argument.  A value that comes
as an argument of its own is looked at only when the next option is met or the arguments end, so
that an option that is not known is refused before it.

What is not given on the command line is taken from a variable of the environment, if the option
names one, and then from its default.
-/

namespace PointInTime
namespace CommandLine

inductive Refusal where
  | helpAsked
  | versionAsked
  | helpNeeded
  | missingSubcommand
  | unknownSubcommand
  | unknownArgument
  | missingOption
  | invalidValue
  | unreadableValue
  | needlessValue
  | repeated
deriving DecidableEq, Repr

inductive Action where
  | flag
  | value (check : String → Option Refusal)
  | help
  | version

structure Opt where
  /-- The name after two dashes. -/
  long : String
  /-- The letter after one dash. -/
  short : Option Char := none
  action : Action
  /-- The variable of the environment that stands for it. -/
  envVar : Option String := none
  required : Bool := false

structure Subcommand where
  name : String
  options : List Opt

structure Program where
  name : String
  options : List Opt
  subcommands : List Subcommand

/-! ## Values found -/

/-- Where a value came from; of two values for an option of both levels the one from the
command line counts. -/
inductive Source where
  | environment
  | arguments
deriving DecidableEq, Repr

/-- The values of options by their names; that of a flag is empty. -/
abbrev Found := Assoc (Source × String)

/-- What has been read: the values, and an option whose value is not settled yet. -/
structure Progress where
  found : Found := []
  pending : Option (Opt × Option String) := none

def Opt.check (o : Opt) (value : String) : Option Refusal :=
  match o.action with
  | .value check => check value
  | _ => none

def store (o : Opt) (source : Source) (value : String) (found : Found) :
    Except Refusal Found :=
  if found.has o.long then .error .repeated
  else
    match o.check value with
    | some refusal => .error refusal
    | none => .ok (found ++ [(o.long, (source, value))])

def settle (p : Progress) : Except Refusal Found :=
  match p.pending with
  | none => .ok p.found
  | some (_, none) => .error .invalidValue
  | some (o, some value) => store o .arguments value p.found

/-! ## Reading arguments -/

def splitEquals (s : List Char) : List Char × Option (List Char) :=
  match s.dropWhile (· ≠ '=') with
  | [] => (s, none)
  | _ :: rest => (s.takeWhile (· ≠ '='), some rest)

def actOn (o : Opt) (p : Progress) : Except Refusal Progress := do
  let found ← settle p
  match o.action with
  | .help => throw .helpAsked
  | .version => throw .versionAsked
  | _ => return { found := ← store o .arguments "" found }

def awaitValue (o : Opt) (attached : Option (List Char)) (p : Progress) :
    Except Refusal Progress := do
  let found ← settle p
  match attached with
  | some value => return { found := ← store o .arguments (String.ofList value) found }
  | none => return { found := found, pending := some (o, none) }

def longOption (options : List Opt) (s : List Char) (p : Progress) : Except Refusal Progress :=
  let (name, attached) := splitEquals s
  match options.find? fun o => o.long = String.ofList name with
  | none => .error .unknownArgument
  | some o =>
      match o.action, attached with
      | .value _, _ => awaitValue o attached p
      | _, some _ => .error .needlessValue
      | _, none => actOn o p

/-- A value attached to a letter, with or without an equals sign. -/
def attachedToLetter : List Char → Option (List Char)
  | [] => none
  | '=' :: rest => some rest
  | s => some s

def shortOptions (options : List Opt) : List Char → Progress → Except Refusal Progress
  | [], p => .ok p
  | c :: rest, p =>
      match options.find? fun o => o.short = some c with
      | none => .error .unknownArgument
      | some o =>
          match o.action with
          | .value _ => awaitValue o (attachedToLetter rest) p
          | _ => do shortOptions options rest (← actOn o p)

def Progress.awaitsValue (p : Progress) : Bool :=
  match p.pending with
  | some (_, none) => true
  | _ => false

/-- An argument that is neither an option nor a subcommand: a value, if one is due. -/
def plainArgument (strange : Refusal) (s : String) (p : Progress) : Except Refusal Progress :=
  match p.pending with
  | some (o, none) => .ok { p with pending := some (o, some s) }
  | _ => .error strange

def argument (options : List Opt) (strange : Refusal) (s : String) (p : Progress) :
    Except Refusal Progress :=
  match s.toList with
  | '-' :: '-' :: rest => longOption options rest p
  | '-' :: c :: rest => shortOptions options (c :: rest) p
  | _ => plainArgument strange s p

/-! ## Subcommands -/

def helpName : String := "help"

def Program.find? (program : Program) (name : String) : Option Subcommand :=
  program.subcommands.find? fun c => c.name = name

def Program.isSubcommand (program : Program) (s : String) : Bool :=
  s == helpName || (program.find? s).isSome

/-- What asking for help ends in: the subcommand that it is asked for has to exist. -/
def helpFor (program : Program) : List String → Refusal
  | [] => .helpAsked
  | [name] => if program.isSubcommand name then .helpAsked else .unknownSubcommand
  | _ => .unknownSubcommand

/-- The refusal of what comes after two dashes, where nothing may come. -/
def afterDashes (program : Option Program) (s : String) : Refusal :=
  match program with
  | none => .unknownArgument
  | some program => if program.isSubcommand s then .unknownArgument else .unknownSubcommand

def readOptions (options : List Opt) : List String → Progress → Except Refusal Progress
  | [], p => .ok p
  | "--" :: [], p => .ok p
  | "--" :: s :: _, _ => .error (afterDashes none s)
  | s :: rest, p => do readOptions options rest (← argument options .unknownArgument s p)

/-- Read the arguments of a program up to a subcommand, with what follows that. -/
def readProgram (program : Program) :
    List String → Progress → Except Refusal (Progress × Option (Subcommand × List String))
  | [], p => .ok (p, none)
  | s :: rest, p =>
      if !p.awaitsValue && s == helpName then .error (helpFor program rest)
      else
        match if p.awaitsValue then none else program.find? s with
        | some c => .ok (p, some (c, rest))
        | none =>
            if s = "--" then
              match rest with
              | [] => .ok (p, none)
              | t :: _ => .error (afterDashes (some program) t)
            else do readProgram program rest (← argument program.options .unknownSubcommand s p)

/-! ## Completion -/

def fromEnvironment (environment : String → Option String) (found : Found) (o : Opt) :
    Except Refusal Found :=
  if found.has o.long then .ok found
  else
    match o.envVar.bind environment with
    | some value => store o .environment value found
    | none => .ok found

def complete (environment : String → Option String) (options : List Opt) (p : Progress) :
    Except Refusal Found := do
  options.foldlM (fromEnvironment environment) (← settle p)

def checkRequired (options : List Opt) (found : Found) : Except Refusal Unit :=
  if options.any fun o => o.required && !found.has o.long then .error .missingOption
  else .ok ()

/-- The value of an option of both levels: that of the subcommand, unless only the program has one
from the command line. -/
def sharedValue (outer inner : Found) (long : String) : Option (Source × String) :=
  match outer.find? long, inner.find? long with
  | some (.arguments, v), some (.environment, _) => some (.arguments, v)
  | found, none => found
  | _, found => found

structure Reading where
  subcommand : String
  values : String → Option String

def read (program : Program) (environment : String → Option String) (arguments : List String) :
    Except Refusal Reading := do
  let (p, chosen) ← readProgram program arguments {}
  match chosen with
  | none =>
      let found ← complete environment program.options p
      if found = [] then throw .helpNeeded else throw .missingSubcommand
  | some (c, rest) =>
      let inner ← complete environment c.options (← readOptions c.options rest {})
      checkRequired c.options inner
      let outer ← complete environment program.options p
      checkRequired program.options outer
      return ⟨c.name, fun long => (sharedValue outer inner long).map (·.2)⟩

end CommandLine
end PointInTime
