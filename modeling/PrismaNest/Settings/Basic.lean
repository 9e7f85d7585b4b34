/-! The settings of a generation run, with their defaults. -/

set_option autoImplicit false

namespace PrismaNest

structure Settings where
  /-- The schema file to read. -/
  schemaPath : String := "prisma/schema.prisma"
  /-- The folder that all generated files go into. -/
  outputDir : String := "generated"
  /-- The extension of generated files, without a dot in front. -/
  fileExtension : String := "ts"
  /-- Without named models, generate only the first. -/
  firstModelOnly : Bool := false
  /-- Names of fields left out of the create request. -/
  excludedFields : List String := ["id", "createdAt", "updatedAt"]
  /-- Write documentation decorators. -/
  enableSwagger : Bool := true
  /-- Guard controllers. -/
  enableGuards : Bool := true
  guardName : String := "JwtAuthGuard"
  guardImport : String := "../auth/jwt-auth.guard"
  prismaServiceImport : String := "../prisma/prisma.service"
  enumImport : String := "@prisma/client"
  baseQueryImport : String := "../../common/dto/base-query.dto"
  /-- Write the shared base query once per run. -/
  generateCommon : Bool := true
  defaultPageSize : Nat := 10
  indentSize : Nat := 2
  /-- Write a manifest with checksums next to the output. -/
  writeManifest : Bool := false
  deriving DecidableEq, Repr

end PrismaNest
