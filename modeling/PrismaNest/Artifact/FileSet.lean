import PrismaNest.Artifact.Controller
import PrismaNest.Artifact.Service
import PrismaNest.Text.Lines

/-! The files of a generation run.

Every selected model contributes its seven artifacts, and the base query comes
once if the settings ask for it. Models whose names differ only in case share a
folder; the files of the later one replace those of the earlier one, which is
reported as a collision.
-/

set_option autoImplicit false

namespace PrismaNest

/-- File contents by path, relative to the output folder. -/
abbrev FileSet := List (String × String)

/-- A model that takes over the folder of an earlier one. -/
structure Collision where
  earlier : String
  later : String
  folder : String
  deriving DecidableEq, Repr

def Collision.message (collision : Collision) : String :=
  "Models '" ++ collision.earlier ++ "' and '" ++ collision.later ++ "' both map to folder '"
    ++ collision.folder ++ "/'; '" ++ collision.later ++ "' overwrites the files of '"
    ++ collision.earlier ++ "'."

def ArtifactKind.lines (settings : Settings) (model : Model) : ArtifactKind → List CodeLine
  | .createDto => model.createDtoLines settings
  | .updateDto => model.updateDtoLines settings
  | .searchDto => model.searchDtoLines settings
  | .entity => model.entityLines settings
  | .service => model.serviceLines settings
  | .controller => model.controllerLines settings
  | .wiring => model.wiringLines settings

/-- What writes files: the settings, and the width of one level of indentation.

The width is taken from the settings when a writer is made and stays, whatever
becomes of the settings afterwards. -/
structure CodeWriter where
  settings : Settings
  width : Nat
  deriving DecidableEq, Repr

namespace CodeWriter

def ofSettings (settings : Settings) : CodeWriter :=
  ⟨settings, settings.indentSize⟩

def artifact (writer : CodeWriter) (kind : ArtifactKind) (model : Model) : String :=
  CodeLine.renderAll writer.width (kind.lines writer.settings model)

def baseQuery (writer : CodeWriter) : String :=
  CodeLine.renderAll writer.width (baseQueryLines writer.settings)

def modelFiles (writer : CodeWriter) (model : Model) : FileSet :=
  ArtifactKind.all.map fun kind =>
    (kind.path model.folderName writer.settings.fileExtension, writer.artifact kind model)

def files (writer : CodeWriter) (models : List Model) : FileSet :=
  let ofModels := models.foldl (fun current model => putEntries current (writer.modelFiles model)) []
  if !models.isEmpty && writer.settings.generateCommon then
    putEntry (baseQueryPath writer.settings.fileExtension) writer.baseQuery ofModels
  else ofModels

end CodeWriter

/-- The model that some models leave a folder to, if any of them has it. -/
def folderOwner? (models : List Model) (folder : String) : Option String :=
  (models.reverse.find? (·.folderName = folder)).map Model.name

/-- Whether a model takes over a folder from the models before it. -/
def collision? (earlier : List Model) (model : Model) : Option Collision :=
  (folderOwner? earlier model.folderName).map fun owner =>
    ⟨owner, model.name, model.folderName⟩

def collisionsAfter (earlier : List Model) : List Model → List Collision
  | [] => []
  | model :: rest => (collision? earlier model).toList ++ collisionsAfter (earlier ++ [model]) rest

def collisions (models : List Model) : List Collision :=
  collisionsAfter [] models

def FileSet.lineTotal (files : FileSet) : Nat :=
  files.foldl (fun total file => total + Text.lineCount file.2) 0

end PrismaNest
