import PrismaNest.Naming.Plural

/-! A data-model schema: models with their fields, and enumerations.

Everything keeps the order in which it was declared. Names need not be unique;
a look-up finds the first.
-/

set_option autoImplicit false

namespace PrismaNest

structure Enumeration where
  name : String
  values : List String
  deriving DecidableEq, Repr

/-- A field of a model, with the TypeScript type and the decorators it is written with.

`checks` are validation decorators and `exposure` is the documentation decorator,
all without the leading `@`. -/
structure Field where
  name : String
  rawType : String
  baseType : String
  isOptional : Bool
  isArray : Bool
  isEnum : Bool
  tsType : String
  checks : List String
  exposure : String
  deriving DecidableEq, Repr

structure Model where
  name : String
  fields : List Field
  deriving DecidableEq, Repr

structure Schema where
  models : List Model
  enums : List Enumeration
  source : Option String
  deriving DecidableEq, Repr

/-- The name of a decorator: what stands before its arguments. -/
def decoratorName (decorator : String) : String :=
  String.ofList (decorator.toList.takeWhile (· ≠ '('))

namespace Field

def checkNames (field : Field) : List String :=
  field.checks.map decoratorName

def exposureName (field : Field) : String :=
  decoratorName field.exposure

def optionalMark (field : Field) : String :=
  if field.isOptional then "?" else ""

def label (field : Field) : String :=
  "<Field " ++ field.name ++ ": " ++ field.tsType ++ field.optionalMark ++ ">"

end Field

def Enumeration.label (enumeration : Enumeration) : String :=
  "<Enum " ++ enumeration.name ++ " (" ++ toString enumeration.values.length ++ " values)>"

namespace Model

def folderName (model : Model) : String :=
  Text.lower model.name

/-- The name under which the data access client offers a model. -/
def handle (model : Model) : String :=
  Naming.lowerFirst model.name

/-- The path under which a model is served: its plural, hyphenated. -/
def route (model : Model) : String :=
  Naming.kebabCase (Naming.plural model.name)

def fieldNames (model : Model) : List String :=
  model.fields.map Field.name

def field? (model : Model) (name : String) : Option Field :=
  model.fields.find? (·.name = name)

def idField? (model : Model) : Option Field :=
  model.field? "id"

def label (model : Model) : String :=
  "<Model " ++ model.name ++ " (" ++ toString model.fields.length ++ " fields)>"

end Model

namespace Schema

def modelNames (schema : Schema) : List String :=
  schema.models.map Model.name

def enumNames (schema : Schema) : List String :=
  schema.enums.map Enumeration.name

def model? (schema : Schema) (name : String) : Option Model :=
  schema.models.find? (·.name = name)

def select (schema : Schema) (names : List String) (firstOnly : Bool) : List Model :=
  if !names.isEmpty then schema.models.filter fun model => names.contains model.name
  else if firstOnly then schema.models.take 1
  else schema.models

/-- Requested names that no model has, once each, in the order of the request. -/
def missing (schema : Schema) (names : List String) : List String :=
  names.eraseDups.filter fun name => (schema.model? name).isNone

def label (schema : Schema) : String :=
  "<SchemaDefinition " ++ toString schema.models.length ++ " models, "
    ++ toString schema.enums.length ++ " enums>"

end Schema

end PrismaNest
