import PrismaNest.Data.Json.Reader
import PrismaNest.Files.Tree
import PrismaNest.Text.Utf8
import PrismaNest.Validation.Issue
import PrismaNest.Yaml.Fault

/-! Why an action failed.

Failures of the file system name the path that was asked for. All others concern
data that was read: text, settings and names.
-/

set_option autoImplicit false

namespace PrismaNest

inductive SettingsFormat where
  | json
  | yaml
  deriving DecidableEq, Repr

inductive Failure where
  | file (fault : FileFault) (path : String)
  /-- A file was to be moved to where something is already. -/
  | occupied (path : String)
  | nullInPath
  | notUtf8 (fault : Text.Utf8Fault)
  | badJson (path : String) (text : List Char) (problem : Json.Problem) (rest : List Char)
  | badYaml (path : String)
  | badScalar (fault : Yaml.ScalarFault)
  | longInteger (digits : Nat)
  | notMapping (format : SettingsFormat) (kind : String)
  | sectionNotMapping (key path : String)
  /-- Merged settings that are not valid. -/
  | badSettings (issues : List Issue)
  /-- Data that is no record of some kind. -/
  | refused (title : String) (issues : List Issue)
  | blankName
  /-- A path was asked for, and none was given. -/
  | noPath

namespace Failure

def message : Failure → String
  | .file fault path => fault.message ++ ": " ++ Text.quoted path
  | .occupied path => "Destination path '" ++ path ++ "' already exists"
  | .nullInPath => "embedded null byte"
  | .notUtf8 fault => fault.message
  | .badJson path text problem rest =>
    "Invalid JSON in " ++ path ++ ": " ++ (Json.Fault.malformed problem rest).message text
  | .badYaml path => "Invalid YAML in " ++ path
  | .badScalar fault => fault.message
  | .longInteger digits => Text.longIntegerMessage digits
  | .notMapping .json kind => "Expected a JSON object at top level, got " ++ kind ++ "."
  | .notMapping .yaml kind => "Expected a YAML mapping at top level, got " ++ kind ++ "."
  | .sectionNotMapping key path => "'" ++ key ++ "' in " ++ path ++ " must be a mapping."
  | .badSettings issues => "Config validation failed: " ++ Issue.summary "GenerationConfig" issues
  | .refused title issues => Issue.summary title issues
  | .blankName => "Resource name must not be empty."
  | .noPath => "expected str, bytes or os.PathLike object, not list"

def isOfFiles : Failure → Bool
  | .file .. | .occupied _ => true
  | _ => false

/-- Whether commands have no message for a failure. -/
def isUnexpected : Failure → Bool
  | .badScalar fault => fault.isUnexpected
  | .noPath => true
  | _ => false

/-- The path that the file system refused to use as asked. -/
def path? : Failure → Option String
  | .file _ path => some path
  | _ => none

end Failure

end PrismaNest
