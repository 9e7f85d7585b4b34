import PrismaNest.Artifact.Request

/-! The service of a model: create, page through, find, update and remove rows.

Listing takes the paging keys off the query, compares every other key that is
given, and answers with one page of rows and the paging data. The module file
wires service and controller together.
-/

set_option autoImplicit false

namespace PrismaNest.Model

def serviceImports (settings : Settings) (model : Model) : List CodeLine :=
  [⟨0, Imports.line ["Injectable"] commonModule⟩,
   ⟨0, Imports.line ["PrismaService"] settings.prismaServiceImport⟩,
   ⟨0, Imports.line [model.createDtoName] ("./dto/create-" ++ model.folderName ++ ".dto")⟩,
   ⟨0, Imports.line [model.updateDtoName] ("./dto/update-" ++ model.folderName ++ ".dto")⟩,
   ⟨0, Imports.line [model.searchDtoName] ("./dto/search-" ++ model.folderName ++ ".dto")⟩]

def rows (model : Model) : String :=
  "this.prisma." ++ model.handle

def serviceCreate (model : Model) : List CodeLine :=
  [⟨1, "create(" ++ model.createArgument ++ ": " ++ model.createDtoName ++ ") \x7b"⟩,
   ⟨2, "return " ++ model.rows ++ ".create(\x7b data: " ++ model.createArgument ++ " \x7d);"⟩,
   ⟨1, "\x7d"⟩]

def serviceFindAll (pageSize : Nat) (model : Model) : List CodeLine :=
  [⟨1, "async findAll(query: " ++ model.searchDtoName ++ ") \x7b"⟩,
   ⟨2, "const \x7b page = 1, limit = " ++ toString pageSize ++ ", ...filters \x7d = query;"⟩,
   ⟨2, "const where = Object.fromEntries("⟩,
   ⟨3, "Object.entries(filters)"⟩,
   ⟨4, ".filter(([, value]) => value !== undefined)"⟩,
   ⟨4, ".map(([key, value]) => [key, \x7b equals: value \x7d]),"⟩,
   ⟨2, ");"⟩,
   ⟨2, "const [data, total] = await this.prisma.$transaction(["⟩,
   ⟨3, model.rows ++ ".findMany(\x7b"⟩,
   ⟨4, "where,"⟩,
   ⟨4, "skip: (page - 1) * limit,"⟩,
   ⟨4, "take: limit,"⟩,
   ⟨3, "\x7d),"⟩,
   ⟨3, model.rows ++ ".count(\x7b where \x7d),"⟩,
   ⟨2, "]);"⟩,
   ⟨2, "return \x7b"⟩,
   ⟨3, "data,"⟩,
   ⟨3, "meta: \x7b"⟩,
   ⟨4, "total,"⟩,
   ⟨4, "page,"⟩,
   ⟨4, "limit,"⟩,
   ⟨4, "totalPages: Math.ceil(total / limit),"⟩,
   ⟨3, "\x7d,"⟩,
   ⟨2, "\x7d;"⟩,
   ⟨1, "\x7d"⟩]

def serviceFindOne (model : Model) : List CodeLine :=
  [⟨1, "findOne(id: " ++ model.idType ++ ") \x7b"⟩,
   ⟨2, "return " ++ model.rows ++ ".findUnique(\x7b where: \x7b id \x7d \x7d);"⟩,
   ⟨1, "\x7d"⟩]

def serviceUpdate (model : Model) : List CodeLine :=
  [⟨1, "update(id: " ++ model.idType ++ ", " ++ model.updateArgument ++ ": "
      ++ model.updateDtoName ++ ") \x7b"⟩,
   ⟨2, "return " ++ model.rows ++ ".update(\x7b where: \x7b id \x7d, data: "
      ++ model.updateArgument ++ " \x7d);"⟩,
   ⟨1, "\x7d"⟩]

def serviceRemove (model : Model) : List CodeLine :=
  [⟨1, "remove(id: " ++ model.idType ++ ") \x7b"⟩,
   ⟨2, "return " ++ model.rows ++ ".delete(\x7b where: \x7b id \x7d \x7d);"⟩,
   ⟨1, "\x7d"⟩]

def serviceLines (settings : Settings) (model : Model) : List CodeLine :=
  model.serviceImports settings
    ++ [.blank, ⟨0, "@Injectable()"⟩, ⟨0, "export class " ++ model.serviceName ++ " \x7b"⟩,
      ⟨1, "constructor(private readonly prisma: PrismaService) \x7b\x7d"⟩, .blank]
    ++ model.serviceCreate ++ [.blank]
    ++ model.serviceFindAll settings.defaultPageSize ++ [.blank]
    ++ model.serviceFindOne ++ [.blank]
    ++ model.serviceUpdate ++ [.blank]
    ++ model.serviceRemove ++ [⟨0, "\x7d"⟩]

def wiringLines (settings : Settings) (model : Model) : List CodeLine :=
  [⟨0, Imports.line ["Module"] commonModule⟩,
   ⟨0, Imports.line ["PrismaService"] settings.prismaServiceImport⟩,
   ⟨0, Imports.line [model.controllerName] ("./" ++ model.folderName ++ ".controller")⟩,
   ⟨0, Imports.line [model.serviceName] ("./" ++ model.folderName ++ ".service")⟩,
   .blank,
   ⟨0, "@Module(\x7b"⟩,
   ⟨1, "controllers: [" ++ model.controllerName ++ "],"⟩,
   ⟨1, "providers: [" ++ model.serviceName ++ ", PrismaService],"⟩,
   ⟨0, "\x7d)"⟩,
   ⟨0, "export class " ++ model.wiringName ++ " \x7b\x7d"⟩]

end PrismaNest.Model
