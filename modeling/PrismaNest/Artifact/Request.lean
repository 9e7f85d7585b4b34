import PrismaNest.Artifact.Kind
import PrismaNest.Code.Import

/-! Request and response classes.

The create request has one checked and documented property per field that is not
excluded; the entity documents every field. The update request makes the create
request partial, and the search request extends the base query, which holds the
paging keys.
-/

set_option autoImplicit false

namespace PrismaNest

def swaggerModule : String := "@nestjs/swagger"
def validatorModule : String := "class-validator"
def commonModule : String := "@nestjs/common"
def mappedTypesModule : String := "@nestjs/mapped-types"
def transformerModule : String := "class-transformer"

def checkOrder : List String :=
  ["IsOptional", "IsString", "IsInt", "IsBoolean", "IsDate", "IsNumber", "IsObject", "IsEnum",
   "IsArray"]

def exposureOrder : List String :=
  ["ApiProperty", "ApiPropertyOptional"]

def checksUsed (fields : List Field) : List String :=
  checkOrder.filter (fields.flatMap Field.checkNames).contains

def exposuresUsed (fields : List Field) : List String :=
  exposureOrder.filter (fields.map Field.exposureName).contains

def enumsUsed (fields : List Field) : List String :=
  ((fields.filter Field.isEnum).map Field.baseType).eraseDups

def decoratorLine (decorator : String) : CodeLine :=
  ⟨1, "@" ++ decorator⟩

/-- A field as a class property, with its decorators in front. -/
def Field.propertyLines (field : Field) (checked documented : Bool) : List CodeLine :=
  (if checked then field.checks.map decoratorLine else [])
    ++ (if documented then [decoratorLine field.exposure] else [])
    ++ [⟨1, field.name ++ field.optionalMark ++ ": " ++ field.tsType ++ ";"⟩]

/-- The properties of a class, with blank lines between them. -/
def classBody (fields : List Field) (checked documented : Bool) : List CodeLine :=
  ((fields.map fun field => field.propertyLines checked documented).intersperse [.blank]).flatten

def classLines (name : String) (fields : List Field) (checked documented : Bool) :
    List CodeLine :=
  [⟨0, "export class " ++ name ++ " \x7b"⟩] ++ classBody fields checked documented ++ [⟨0, "\x7d"⟩]

namespace Model

def createDtoImports (settings : Settings) (fields : List Field) : Imports :=
  .ofList <|
    (if settings.enableSwagger then [(swaggerModule, exposuresUsed fields)] else [])
      ++ [(validatorModule, checksUsed fields), (settings.enumImport, enumsUsed fields)]

def createDtoLines (settings : Settings) (model : Model) : List CodeLine :=
  let fields := model.dtoFields settings.excludedFields
  (createDtoImports settings fields).codeBlock
    ++ classLines model.createDtoName fields true settings.enableSwagger

def entityImports (settings : Settings) (fields : List Field) : Imports :=
  .ofList <|
    (if settings.enableSwagger then [(swaggerModule, exposuresUsed fields)] else [])
      ++ [(settings.enumImport, enumsUsed fields)]

def entityLines (settings : Settings) (model : Model) : List CodeLine :=
  (entityImports settings model.fields).codeBlock
    ++ classLines model.entityName model.fields false settings.enableSwagger

def updateDtoLines (settings : Settings) (model : Model) : List CodeLine :=
  let source := if settings.enableSwagger then swaggerModule else mappedTypesModule
  [⟨0, Imports.line ["PartialType"] source⟩,
   ⟨0, Imports.line [model.createDtoName] ("./create-" ++ model.folderName ++ ".dto")⟩,
   .blank,
   ⟨0, "export class " ++ model.updateDtoName ++ " extends PartialType(" ++ model.createDtoName
      ++ ") \x7b\x7d"⟩]

def searchDtoLines (settings : Settings) (model : Model) : List CodeLine :=
  [⟨0, Imports.line ["BaseQueryDto"] settings.baseQueryImport⟩,
   .blank,
   ⟨0, "export class " ++ model.searchDtoName ++ " extends BaseQueryDto \x7b\x7d"⟩]

end Model

def pagingKeyLines (documented : Bool) (key : String) (default : Nat) : List CodeLine :=
  [⟨1, "@IsOptional()"⟩, ⟨1, "@Type(() => Number)"⟩, ⟨1, "@IsInt()"⟩, ⟨1, "@Min(1)"⟩]
    ++ (if documented then
      [⟨1, "@ApiPropertyOptional(\x7b default: " ++ toString default ++ " \x7d)"⟩] else [])
    ++ [⟨1, key ++ "?: number = " ++ toString default ++ ";"⟩]

/-- The base query, which every search request extends. -/
def baseQueryLines (settings : Settings) : List CodeLine :=
  let imports : Imports :=
    (if settings.enableSwagger then [(swaggerModule, ["ApiPropertyOptional"])] else [])
      ++ [(transformerModule, ["Type"]), (validatorModule, ["IsInt", "IsOptional", "Min"])]
  imports.codeBlock
    ++ [⟨0, "export class BaseQueryDto \x7b"⟩]
    ++ pagingKeyLines settings.enableSwagger "page" 1
    ++ [.blank]
    ++ pagingKeyLines settings.enableSwagger "limit" settings.defaultPageSize
    ++ [⟨0, "\x7d"⟩]

end PrismaNest
