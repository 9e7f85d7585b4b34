import PrismaNest.Settings.Shape
import PrismaNest.Workspace.Files
import PrismaNest.Yaml.Document

/-! Settings from files and from overrides.

A file whose name ends in `.json` holds a JSON object, any other a YAML mapping. The
settings stand at its top, or in the first of three sections that it has. Overrides
replace entries of the file, unless they are null.
-/

set_option autoImplicit false

namespace PrismaNest

abbrev SettingsEntries := List (Value × Value)

/-- The names of the sections that may hold the settings, in the order of precedence. -/
def sectionNames : List String :=
  ["config", "nestgen", "generation_config"]

def topLevel (path : Path) (text : String) : Except Failure SettingsEntries :=
  if path.hasSuffix ".json" then
    match Json.ofText text.toList with
    | .error (.longInteger digits) => .error (.longInteger digits)
    | .error (.malformed problem rest) => .error (.badJson path.toText text.toList problem rest)
    | .ok document =>
      match Value.ofJson document with
      | .mapping entries => .ok entries
      | other => .error (.notMapping .json other.kindName)
  else
    match Yaml.read text with
    | .error .malformed => .error (.badYaml path.toText)
    | .error (.scalar fault) => .error (.badScalar fault)
    | .ok .null => .ok []
    | .ok (.mapping entries) => .ok entries
    | .ok other => .error (.notMapping .yaml other.kindName)

/-- The settings among the entries of a file: those of a section, or all. -/
def settingsAmong (path : Path) (entries : SettingsEntries) : Except Failure SettingsEntries :=
  match sectionNames.findSome? fun key => (Value.lookupText key entries).map (key, ·) with
  | none => .ok entries
  | some (_, .mapping inner) => .ok inner
  | some (_, .enclosing _) => .ok entries
  | some (key, _) => .error (.sectionNotMapping key path.toText)

def settingsOfText (path : Path) (text : String) : Except Failure SettingsEntries := do
  settingsAmong path (← topLevel path text)

def loadSettings (given : String) : Action SettingsEntries := do
  let path := Path.ofText given
  let text ← Action.readText path
  Action.ofExcept id (settingsOfText path text)

/-- Entries with overrides, of which those that are null count as not given. -/
def mergeOverrides (entries overrides : SettingsEntries) : SettingsEntries :=
  overrides.foldl (fun current entry =>
    match entry.2 with
    | .null => current
    | value => Value.putKey entry.1 value current) entries

def Settings.ofEntries (entries overrides : SettingsEntries) : Except Failure Settings :=
  (Settings.shape.ofEntries (mergeOverrides entries overrides)).mapError Failure.badSettings

def buildSettings (file : Option String) (overrides : SettingsEntries) : Action Settings := do
  let entries ←
    match file with
    | none => pure []
    | some given => do
      let entries ← loadSettings given
      Action.log .info .generation ("Loaded config file " ++ given ++ " ("
        ++ toString entries.length ++ " keys).")
      pure entries
  Action.ofExcept id (Settings.ofEntries entries overrides)

end PrismaNest
