import PrismaNest.Export.Writer
import PrismaNest.Generation.Report
import PrismaNest.Schema.Reading
import PrismaNest.Settings.Shape

/-! Generation runs: read a schema, choose its models, render their files, and write them. -/

set_option autoImplicit false

namespace PrismaNest

namespace Schema

/-- Logs what reading a schema has dropped or replaced, and what it found. -/
def logReading (schema : Schema) (text : String) : Action Unit := do
  (Schema.remarks text).forM fun remark => Action.log .debug .schema remark.message
  Action.log .info .schema ("Parsed schema: " ++ toString schema.models.length ++ " model(s), "
    ++ toString schema.enums.length ++ " enum(s).")

/-- Reads the schema in a file. The path is kept as it was given. -/
def load (given : String) : Action Schema := do
  let path := Path.ofText given
  let text ← Action.readText path
  Action.log .info .schema ("Read schema " ++ path.toText ++ " (" ++ toString text.length
    ++ " chars).")
  let schema := Schema.ofText text (some given)
  schema.logReading text
  return schema

end Schema

/-- What generates files: settings, and the width of indentation taken from them at first. -/
structure Generator where
  writer : CodeWriter
  dryRun : Bool
  deriving DecidableEq, Repr

namespace CodeWriter

def logRendering (earlier : List Model) : List Model → Action Unit
  | [] => pure ()
  | model :: rest => do
    match collision? earlier model with
    | some collision => Action.log .warning .artifacts collision.message
    | none => pure ()
    Action.log .debug .artifacts ("Generated all files for model '" ++ model.name ++ "': "
      ++ toString ArtifactKind.all.length ++ " files.")
    logRendering (earlier ++ [model]) rest

def render (writer : CodeWriter) (models : List Model) : Action FileSet := do
  logRendering [] models
  let files := writer.files models
  Action.log .info .artifacts ("Rendered " ++ toString files.length ++ " file(s), ~"
    ++ toString files.lineTotal ++ " lines, for " ++ toString models.length ++ " model(s).")
  return files

end CodeWriter

namespace Generator

/-- A new generator, which takes its width of indentation from the settings. -/
def ofSettings (settings : Settings) (dryRun : Bool) : Generator :=
  ⟨.ofSettings settings, dryRun⟩

def create (settings : Settings) (dryRun : Bool) : Action Generator := do
  Action.log .debug .artifacts ("TemplateGenerator initialised (swagger="
    ++ flagText settings.enableSwagger ++ ", guards=" ++ flagText settings.enableGuards
    ++ ", ext=" ++ settings.fileExtension ++ ").")
  Action.log .debug .generation ("ResourceGenerator initialised: schema=" ++ settings.schemaPath
    ++ ", output=" ++ settings.outputDir ++ ", dry_run=" ++ flagText dryRun ++ ".")
  return .ofSettings settings dryRun

def settings (generator : Generator) : Settings :=
  generator.writer.settings

def withSettings (generator : Generator) (settings : Settings) : Generator :=
  { generator with writer := { generator.writer with settings } }

/-- Assigns one setting of a generator that is in use. -/
def assign (name : String) (value : Value) (generator : Generator) : Checked Generator :=
  (Settings.shape.assign name value generator.settings).map generator.withSettings

/-- Assigns settings one after another. A value that is refused changes nothing. -/
def assignAll (assignments : List (String × Value)) (generator : Generator) : Generator :=
  assignments.foldl (fun current assignment =>
    (assign assignment.1 assignment.2 current).toOption.getD current) generator

def selection (generator : Generator) (schema : Schema) (names : List String) : List Model :=
  schema.select names generator.settings.firstModelOnly

def missing (schema : Schema) (names : List String) : Action (List String) := do
  let missing := schema.missing names
  if !missing.isEmpty then
    Action.log .warning .generation ("Requested model(s) not found in schema: "
      ++ String.intercalate ", " missing)
  return missing

/-- Renders and writes the selected models of a schema, after some steps that led to it. -/
def run (generator : Generator) (schema : Schema) (schemaFile : String) (output : Path)
    (names : List String) (steps : List Step) : Action Report := do
  let start ← Action.readClock
  let models := generator.selection schema names
  let missing ← missing schema names
  let (files, rendering) ← Action.timed "render" (generator.writer.render models)
  let exporter ← Exporter.create generator.settings output true generator.dryRun
  let (result, exporting) ← Action.timed "export" (exporter.run files)
  let { manifest, .. } := result
  let stop ← Action.readClock
  Action.log .info .generation ("Generated " ++ toString manifest.totalFiles ++ " file(s) for "
    ++ toString models.length ++ " model(s) into " ++ output.toText ++ ".")
  return {
    schemaFile
    outputFolder := output.toText
    dryRun := generator.dryRun
    found := schema.modelNames
    generated := models.map Model.name
    missing
    totalFiles := manifest.totalFiles
    totalBytes := manifest.totalBytes
    totalLines := manifest.totalLines
    elapsed := stop.sub start
    steps := steps ++ [
      ⟨"Render", rendering.elapsed,
        toString files.length ++ " files for " ++ toString models.length ++ " models"⟩,
      ⟨"Export", exporting.elapsed, grouped manifest.totalBytes ++ " bytes"⟩]
    manifest := some manifest }

/-- A path that was asked for, or else the one from the settings. An empty text asks for nothing. -/
def pathOr (asked : Option String) (default : String) : Path :=
  .ofText ((asked.filter (· ≠ "")).getD default)

def generate (generator : Generator) (schema : Schema) (output : Option String)
    (names : List String) : Action Report :=
  generator.run schema ((schema.source.filter (· ≠ "")).getD "<memory>")
    (pathOr output generator.settings.outputDir) names []

def generateFromFile (generator : Generator) (schemaPath output : Option String)
    (names : List String) : Action Report := do
  let path := pathOr schemaPath generator.settings.schemaPath
  let (schema, reading) ← Action.timed "parse_schema" (Schema.load path.toText)
  generator.run schema path.toText (pathOr output generator.settings.outputDir) names
    [⟨"Parse Schema", reading.elapsed, toString schema.models.length ++ " models, "
      ++ toString schema.enums.length ++ " enums"⟩]

end Generator

end PrismaNest
