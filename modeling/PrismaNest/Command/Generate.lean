import PrismaNest.Command.Outcome
import PrismaNest.Generation.Run
import PrismaNest.Settings.File

/-! The command that generates resources from a schema.

Settings come from a file, if one is given, and from the options, which win. Bad
settings or a bad schema end the command with one status, files that cannot be
written with another.
-/

set_option autoImplicit false

namespace PrismaNest.GenerateCommand

def grammar : Grammar where
  options := [
    ⟨["-h", "--help"], .none, .help⟩,
    ⟨["--version"], .none, .version⟩,
    ⟨["-s", "--schema"], .one, .note⟩,
    ⟨["-o", "--output"], .one, .note⟩,
    ⟨["-c", "--config"], .one, .note⟩,
    ⟨["--first-only"], .none, .note⟩,
    ⟨["--exclude"], .some, .note⟩,
    ⟨["--no-swagger"], .none, .note⟩,
    ⟨["--no-guards"], .none, .note⟩,
    ⟨["--no-common"], .none, .note⟩,
    ⟨["--extension"], .one, .note⟩,
    ⟨["--dry-run"], .none, .note⟩,
    ⟨["--manifest"], .none, .note⟩,
    ⟨["-v", "--verbose"], .none, .note⟩,
    ⟨["-q", "--quiet"], .none, .note⟩]
  positional := .many

structure Request where
  models : List String
  settingsFile : Option SingleArgument
  overrides : SettingsEntries
  dryRun : Bool
  verbosity : Nat
  quiet : Bool

/-- The setting that the argument of an option gives. An argument that was dropped counts as a list
of none. -/
def textOverride (arguments : Arguments) (flag key : String) : SettingsEntries :=
  match arguments.value? flag with
  | none => []
  | some (.text content) => [(.text key, .text content)]
  | some .dropped => [(.text key, .list [])]

def flagOverride (arguments : Arguments) (flag key : String) (value : Bool) : SettingsEntries :=
  if arguments.has flag then [(.text key, .bool value)] else []

def optionOverrides (arguments : Arguments) : SettingsEntries :=
  textOverride arguments "--schema" "schema_path"
    ++ textOverride arguments "--output" "output_dir"
    ++ textOverride arguments "--extension" "file_extension"
    ++ (match arguments.last? "--exclude" with
      | none => []
      | some names => [(.text "excluded_fields", .list (names.map Value.text))])
    ++ flagOverride arguments "--first-only" "first_model_only" true
    ++ flagOverride arguments "--no-swagger" "enable_swagger" false
    ++ flagOverride arguments "--no-guards" "enable_guards" false
    ++ flagOverride arguments "--no-common" "generate_common" false
    ++ flagOverride arguments "--manifest" "write_manifest" true

def Request.ofArguments (arguments : Arguments) : Request where
  models := arguments.positional.getD []
  settingsFile := arguments.value? "--config"
  overrides := optionOverrides arguments
  dryRun := arguments.has "--dry-run"
  verbosity := arguments.count "--verbose"
  quiet := arguments.has "--quiet"

/-- What arguments ask for. All of them must be understood. -/
def Request.read (arguments : List String) : Except Halt Request := do
  let known ← grammar.read arguments
  if known.extras.isEmpty then return .ofArguments known
  else .error (.misuse (.unrecognized known.extras))

/-- Logs a message of the command, and gives the status that goes with it. -/
def refuse (status : ExitStatus) (message : String) : Action (ExitStatus × String) := do
  Action.log .error .command message
  return (status, "")

/-- How the command ends if a run fails. Only the file system can keep output from being
written. -/
def refuseRun (schema : Path) (failure : Failure) : Action (ExitStatus × String) :=
  if failure.isOfFiles then
    if (failure.path?.map Path.ofText) = some schema then
      refuse .inputFailure ("Failed to read schema: " ++ failure.message)
    else refuse .writeFailure ("Failed to write output: " ++ failure.message)
  else
    refuse .inputFailure
      ("Failed to read schema " ++ schema.toText ++ ": " ++ failure.message)

def generate (request : Request) (settings : Settings) : Action (ExitStatus × String) := do
  let schema := Path.ofText settings.schemaPath
  if !(← Action.isFileAt schema) then
    refuse .inputFailure ("Schema file not found: " ++ schema.toText)
  else
    let { home, .. } ← get
    let output := Path.ofText settings.outputDir
    Action.log .info .command
      ("Schema:  " ++ FileTree.locationText (FileTree.resolve home schema))
    Action.checkPath output
    Action.log .info .command
      ("Output:  " ++ FileTree.locationText (FileTree.resolve home output))
    if request.dryRun then
      Action.log .info .command "Dry-run mode: files will not be written to disk."
    let generator ← Generator.create settings request.dryRun
    match ← Action.attempt (generator.generateFromFile none none request.models) with
    | .ok report =>
      return (.success, if request.quiet then "" else report.summary ++ "\n")
    | .error failure => refuseRun schema failure

def settings (request : Request) : Action Settings :=
  match request.settingsFile with
  | none => buildSettings none request.overrides
  | some (.text file) => buildSettings (some file) request.overrides
  | some .dropped => Action.fail .noPath

/-- Does what was asked for, up to the last message. -/
def work (request : Request) : Action (ExitStatus × String) := do
  match ← Action.attempt (settings request) with
  | .ok settings => generate request settings
  | .error failure =>
    if failure.isUnexpected then Action.fail failure
    else refuse .inputFailure ("Failed to load configuration: " ++ failure.message)

def perform (request : Request) : Action Outcome :=
  Action.asCommand (if request.quiet then none else some (.ofVerbosity request.verbosity)) do
    let (status, stdout) ← work request
    if status = .success then
      Action.log .info .command "Resources generated successfully."
    else
      Action.log .error .command
        ("Generation failed with exit code " ++ toString status.code ++ ".")
    return (status, stdout)

def run (arguments : List String) : Action Outcome :=
  match Request.read arguments with
  | .error halt => return .ofHalt "nestgen" .generate halt
  | .ok request => perform request

end PrismaNest.GenerateCommand
