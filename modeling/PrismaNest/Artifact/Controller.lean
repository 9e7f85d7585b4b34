import PrismaNest.Artifact.Request

/-! The controller of a model: five endpoints, each bound to a service method.

Documentation decorators and the guard are written if the settings ask for them.
Listing is documented as a page of entities together with the paging data.
-/

set_option autoImplicit false

namespace PrismaNest

/-- A class method that answers a route by a call to the service. -/
structure Endpoint where
  route : String
  documentation : List CodeLine
  signature : String
  call : String
  deriving DecidableEq, Repr

def Endpoint.lines (documented : Bool) (endpoint : Endpoint) : List CodeLine :=
  [.blank, ⟨1, "@" ++ endpoint.route⟩]
    ++ (if documented then endpoint.documentation.map (CodeLine.inside 1) else [])
    ++ [⟨1, endpoint.signature ++ " \x7b"⟩, ⟨2, "return " ++ endpoint.call ++ ";"⟩, ⟨1, "\x7d"⟩]

/-- The documentation of an answer that is a page of entities. -/
def pageDocumentation (entityName : String) : List CodeLine :=
  [⟨0, "@ApiOkResponse(\x7b"⟩,
   ⟨1, "schema: \x7b"⟩,
   ⟨2, "properties: \x7b"⟩,
   ⟨3, "data: \x7b type: 'array', items: \x7b $ref: getSchemaPath(" ++ entityName
      ++ ") \x7d \x7d,"⟩,
   ⟨3, "meta: \x7b"⟩,
   ⟨4, "type: 'object',"⟩,
   ⟨4, "properties: \x7b"⟩]
    ++ ["total", "page", "limit", "totalPages"].map (fun key =>
      ⟨5, key ++ ": \x7b type: 'number' \x7d,"⟩)
    ++ [⟨4, "\x7d,"⟩, ⟨3, "\x7d,"⟩, ⟨2, "\x7d,"⟩, ⟨1, "\x7d,"⟩, ⟨0, "\x7d)"⟩]

def entityDocumentation (decorator entityName : String) : List CodeLine :=
  [⟨0, "@" ++ decorator ++ "(\x7b type: " ++ entityName ++ " \x7d)"⟩]

namespace Model

def serviceMember (model : Model) : String :=
  model.handle ++ "Service"

def idParameter (model : Model) : String :=
  (if model.hasNumericId then "@Param('id', ParseIntPipe) id: " else "@Param('id') id: ")
    ++ model.idType

def endpoints (model : Model) : List Endpoint :=
  let service := "this." ++ model.serviceMember
  [{ route := "Post()"
     documentation := entityDocumentation "ApiCreatedResponse" model.entityName
     signature := "create(@Body() " ++ model.createArgument ++ ": " ++ model.createDtoName ++ ")"
     call := service ++ ".create(" ++ model.createArgument ++ ")" },
   { route := "Get()"
     documentation := pageDocumentation model.entityName
     signature := "findAll(@Query() query: " ++ model.searchDtoName ++ ")"
     call := service ++ ".findAll(query)" },
   { route := "Get(':id')"
     documentation := entityDocumentation "ApiOkResponse" model.entityName
     signature := "findOne(" ++ model.idParameter ++ ")"
     call := service ++ ".findOne(id)" },
   { route := "Patch(':id')"
     documentation := entityDocumentation "ApiOkResponse" model.entityName
     signature := "update(" ++ model.idParameter ++ ", @Body() " ++ model.updateArgument ++ ": "
       ++ model.updateDtoName ++ ")"
     call := service ++ ".update(id, " ++ model.updateArgument ++ ")" },
   { route := "Delete(':id')"
     documentation := entityDocumentation "ApiOkResponse" model.entityName
     signature := "remove(" ++ model.idParameter ++ ")"
     call := service ++ ".remove(id)" }]

/-- The names that a controller takes from the framework. -/
def commonNames (guarded numericId : Bool) : List String :=
  ["Body", "Controller", "Delete", "Get", "Param"]
    ++ (if numericId then ["ParseIntPipe"] else [])
    ++ ["Patch", "Post", "Query"]
    ++ (if guarded then ["UseGuards"] else [])

def swaggerNames (guarded : Bool) : List String :=
  (if guarded then ["ApiBearerAuth"] else [])
    ++ ["ApiCreatedResponse", "ApiExtraModels", "ApiOkResponse", "ApiTags", "getSchemaPath"]

def controllerImports (settings : Settings) (model : Model) : Imports :=
  let folder := model.folderName
  .ofList <|
    [(commonModule, commonNames settings.enableGuards model.hasNumericId)]
      ++ (if settings.enableSwagger then
        [(swaggerModule, swaggerNames settings.enableGuards)] else [])
      ++ (if settings.enableGuards then [(settings.guardImport, [settings.guardName])] else [])
      ++ [("./" ++ folder ++ ".service", [model.serviceName]),
        ("./dto/create-" ++ folder ++ ".dto", [model.createDtoName]),
        ("./dto/update-" ++ folder ++ ".dto", [model.updateDtoName]),
        ("./dto/search-" ++ folder ++ ".dto", [model.searchDtoName])]
      ++ (if settings.enableSwagger then
        [("./entities/" ++ folder ++ ".entity", [model.entityName])] else [])

def controllerDecorators (settings : Settings) (model : Model) : List CodeLine :=
  (if settings.enableSwagger then
    [⟨0, "@ApiTags('" ++ model.route ++ "')"⟩,
     ⟨0, "@ApiExtraModels(" ++ model.entityName ++ ")"⟩] else [])
    ++ (if settings.enableGuards && settings.enableSwagger then [⟨0, "@ApiBearerAuth()"⟩] else [])
    ++ (if settings.enableGuards then [⟨0, "@UseGuards(" ++ settings.guardName ++ ")"⟩] else [])
    ++ [⟨0, "@Controller('" ++ model.route ++ "')"⟩]

def controllerLines (settings : Settings) (model : Model) : List CodeLine :=
  (model.controllerImports settings).codeBlock
    ++ model.controllerDecorators settings
    ++ [⟨0, "export class " ++ model.controllerName ++ " \x7b"⟩,
      ⟨1, "constructor(private readonly " ++ model.serviceMember ++ ": " ++ model.serviceName
        ++ ") \x7b\x7d"⟩]
    ++ model.endpoints.flatMap (Endpoint.lines settings.enableSwagger)
    ++ [⟨0, "\x7d"⟩]

end Model

end PrismaNest
