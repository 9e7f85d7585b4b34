import PrismaNest.Settings.Basic
import PrismaNest.Validation.Reader
import PrismaNest.Validation.Shape

/-! The settings as a record: keys, readers and limits.

Leading dots are taken off an extension, which must not be empty then, and a name
excluded twice is kept once. Page sizes lie between 1 and 1000 and indentation
between 2 and 8.
-/

set_option autoImplicit false

namespace PrismaNest.Settings

def readExtension (value : Value) : Checked String :=
  match value.readNonemptyText with
  | .error issues => .error issues
  | .ok extension =>
    let bare := extension.toList.dropWhile (· = '.')
    if bare.isEmpty then .refuse .emptyExtension else .ok (String.ofList bare)

def readExclusions (value : Value) : Checked (List String) :=
  (value.readList Value.readText).map List.eraseDups

def slots : List (Slot Settings) :=
  [.of "schema_path" false Value.readText fun path s => { s with schemaPath := path },
   .of "output_dir" false Value.readText fun folder s => { s with outputDir := folder },
   .of "file_extension" false readExtension fun extension s => { s with fileExtension := extension },
   .of "first_model_only" false Value.readTruth fun flag s => { s with firstModelOnly := flag },
   .of "excluded_fields" false readExclusions fun names s => { s with excludedFields := names },
   .of "enable_swagger" false Value.readTruth fun flag s => { s with enableSwagger := flag },
   .of "enable_guards" false Value.readTruth fun flag s => { s with enableGuards := flag },
   .of "guard_name" false Value.readNonemptyText fun name s => { s with guardName := name },
   .of "guard_import" false Value.readNonemptyText fun source s => { s with guardImport := source },
   .of "prisma_service_import" false Value.readNonemptyText
     fun source s => { s with prismaServiceImport := source },
   .of "enum_import" false Value.readNonemptyText fun source s => { s with enumImport := source },
   .of "base_query_import" false Value.readNonemptyText
     fun source s => { s with baseQueryImport := source },
   .of "generate_common" false Value.readTruth fun flag s => { s with generateCommon := flag },
   .of "default_page_size" false (Value.readBounded 1 1000)
     fun size s => { s with defaultPageSize := size },
   .of "indent_size" false (Value.readBounded 2 8) fun size s => { s with indentSize := size },
   .of "write_manifest" false Value.readTruth fun flag s => { s with writeManifest := flag }]

def shape : Shape Settings where
  title := "GenerationConfig"
  blank := {}
  slots := slots

/-- Adds an excluded name at the end, even if it is there already. -/
def exclude (settings : Settings) (name : String) : Settings :=
  { settings with excludedFields := settings.excludedFields ++ [name] }

end PrismaNest.Settings
