import PrismaNest.Schema.Basic
import PrismaNest.Settings.Basic

/-! The artifacts of a model: seven files, their paths, and the classes in them.

All paths lie in the model's folder. They follow the usual layout of a resource:
request classes under `dto`, the response class under `entities`, and service,
controller and module at the top.
-/

set_option autoImplicit false

namespace PrismaNest

inductive ArtifactKind where
  | createDto
  | updateDto
  | searchDto
  | entity
  | service
  | controller
  | wiring
  deriving DecidableEq, Repr

namespace ArtifactKind

/-- All kinds, in the order in which a model's files are generated. -/
def all : List ArtifactKind :=
  [createDto, updateDto, searchDto, entity, service, controller, wiring]

theorem mem_all (kind : ArtifactKind) : kind ∈ all := by
  cases kind <;> simp [all]

def name : ArtifactKind → String
  | createDto => "create_dto"
  | updateDto => "update_dto"
  | searchDto => "search_dto"
  | entity => "entity"
  | service => "service"
  | controller => "controller"
  | wiring => "module"

def ofName? (name : String) : Option ArtifactKind :=
  all.find? (·.name = name)

theorem ofName?_name (kind : ArtifactKind) : ofName? kind.name = some kind := by
  cases kind <;> decide

def path (folder extension : String) : ArtifactKind → String
  | createDto => folder ++ "/dto/create-" ++ folder ++ ".dto." ++ extension
  | updateDto => folder ++ "/dto/update-" ++ folder ++ ".dto." ++ extension
  | searchDto => folder ++ "/dto/search-" ++ folder ++ ".dto." ++ extension
  | entity => folder ++ "/entities/" ++ folder ++ ".entity." ++ extension
  | service => folder ++ "/" ++ folder ++ ".service." ++ extension
  | controller => folder ++ "/" ++ folder ++ ".controller." ++ extension
  | wiring => folder ++ "/" ++ folder ++ ".module." ++ extension

end ArtifactKind

/-- The path of the base query shared by all search requests. -/
def baseQueryPath (extension : String) : String :=
  "common/dto/base-query.dto." ++ extension

namespace Model

def createDtoName (model : Model) : String := "Create" ++ model.name ++ "Dto"
def updateDtoName (model : Model) : String := "Update" ++ model.name ++ "Dto"
def searchDtoName (model : Model) : String := "Search" ++ model.name ++ "Dto"
def entityName (model : Model) : String := model.name ++ "Entity"
def serviceName (model : Model) : String := model.name ++ "Service"
def controllerName (model : Model) : String := model.name ++ "Controller"
def wiringName (model : Model) : String := model.name ++ "Module"

/-- Names of the variables that hold a create or an update request. -/
def createArgument (model : Model) : String := "create" ++ model.name ++ "Dto"
def updateArgument (model : Model) : String := "update" ++ model.name ++ "Dto"

/-- Whether the identifier in a path has to be read as a number. -/
def hasNumericId (model : Model) : Bool :=
  model.idField?.any (·.baseType = "Int")

def idType (model : Model) : String :=
  if model.hasNumericId then "number" else "string"

def dtoFields (model : Model) (excluded : List String) : List Field :=
  model.fields.filter fun field => !excluded.contains field.name

end Model

end PrismaNest
