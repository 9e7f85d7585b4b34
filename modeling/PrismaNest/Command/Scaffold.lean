import PrismaNest.Command.Outcome
import PrismaNest.Scaffold.Run

/-! The command that scaffolds an empty resource.

It has one command of its own, which takes the rest of the arguments. Arguments that
neither of the two understands are reported together, in the name of the outer one.
-/

set_option autoImplicit false

namespace PrismaNest.ScaffoldCommand

def grammar : Grammar where
  options := [⟨["-h", "--help"], .none, .help⟩, ⟨["--version"], .none, .version⟩]
  positional := .command "command"

def resourceGrammar : Grammar where
  options := [
    ⟨["-h", "--help"], .none, .help⟩,
    ⟨["-o", "--output"], .one, .note⟩,
    ⟨["-t", "--templates"], .one, .note⟩,
    ⟨["-v", "--verbose"], .none, .note⟩]
  positional := .one "name"

def commandNames : List String :=
  ["resource"]

def program : String := "nestgen-scaffold"

structure Request where
  name : String
  output : SingleArgument
  templates : Option SingleArgument
  verbosity : Nat
  deriving DecidableEq, Repr

def Request.ofArguments (arguments : Arguments) : Request where
  name := (arguments.positional.bind List.head?).getD ""
  output := (arguments.value? "--output").getD (.text "src")
  templates := arguments.value? "--templates"
  verbosity := arguments.count "--verbose"

/-- What arguments ask for, or how they end the command. -/
def Request.read (texts : List String) : Except Outcome Request := do
  let outer ← (grammar.read texts).mapError (.ofHalt program .scaffold)
  match outer.positional with
  | some ("resource" :: rest) =>
    let inner ← (resourceGrammar.read rest).mapError (.ofHalt (program ++ " resource") .resource)
    match outer.extras ++ inner.extras with
    | [] => return .ofArguments inner
    | extras => .error (.ofHalt program .scaffold (.misuse (.unrecognized extras)))
  | other =>
    let given := (other.bind List.head?).getD ""
    .error (.ofHalt program .scaffold (.misuse (.unknownCommand "command" given commandNames)))

/-- Scaffolds what was asked for. Templates that were dropped are the built-in ones. -/
def scaffold (request : Request) : Action Scaffolding := do
  let name ← Scaffold.resourceName request.name
  let templates := match request.templates with
    | some (.text folder) => some folder
    | _ => none
  match request.output with
  | .text output => Scaffold.run name output templates
  | .dropped => Action.fail .noPath

def work (request : Request) : Action (ExitStatus × String) := do
  match ← Action.attempt (scaffold request) with
  | .ok scaffolding =>
    return (.success, "Resource " ++ scaffolding.name ++ " generated successfully.\n")
  | .error failure =>
    if failure.isUnexpected then Action.fail failure
    Action.log .error .scaffold
      ("Failed to scaffold resource " ++ request.name ++ ": " ++ failure.message)
    return (.inputFailure, "")

def run (arguments : List String) : Action Outcome :=
  match Request.read arguments with
  | .error outcome => return outcome
  | .ok request => Action.asCommand (some (.ofVerbosity request.verbosity)) (work request)

end PrismaNest.ScaffoldCommand
