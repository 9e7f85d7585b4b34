import PrismaNest.Proofs.Artifact.Bodies
import PrismaNest.Proofs.Artifact.References

/-! What the artifacts import.

Every artifact is a list of imports followed by a body. The imports come from packages, from the
paths that the settings give, and from other artifacts of the model; a written file imports
nothing else.
-/

set_option autoImplicit false

namespace PrismaNest

open Text

namespace ArtifactKind

/-- What an artifact imports from outside of its model, in the order of its import lines. -/
def outsideImports (settings : Settings) (model : Model) : ArtifactKind → Imports
  | createDto =>
    let fields := model.dtoFields settings.excludedFields
    (if settings.enableSwagger then [(swaggerModule, exposuresUsed fields)] else [])
      ++ [(validatorModule, checksUsed fields), (settings.enumImport, enumsUsed fields)]
  | updateDto =>
    [(if settings.enableSwagger then swaggerModule else mappedTypesModule, ["PartialType"])]
  | searchDto => [(settings.baseQueryImport, ["BaseQueryDto"])]
  | entity =>
    (if settings.enableSwagger then [(swaggerModule, exposuresUsed model.fields)] else [])
      ++ [(settings.enumImport, enumsUsed model.fields)]
  | service => [(commonModule, ["Injectable"]), (settings.prismaServiceImport, ["PrismaService"])]
  | controller =>
    [(commonModule, Model.commonNames settings.enableGuards model.hasNumericId)]
      ++ (if settings.enableSwagger then
        [(swaggerModule, Model.swaggerNames settings.enableGuards)] else [])
      ++ (if settings.enableGuards then [(settings.guardImport, [settings.guardName])] else [])
  | wiring => [(commonModule, ["Module"]), (settings.prismaServiceImport, ["PrismaService"])]

/-- All that an artifact imports. -/
def imports (settings : Settings) (model : Model) (kind : ArtifactKind) : Imports :=
  kind.outsideImports settings model ++ (kind.uses settings).map (kind.reference model)

end ArtifactKind

/-- One line per entry, in the order of the entries. -/
def Imports.written (imports : Imports) : List CodeLine :=
  imports.map fun entry => ⟨0, line entry.2 entry.1⟩

namespace CodeLine

theorem fits_append {imports : Imports} {head body : List CodeLine}
    (heads : ∀ line ∈ head, line.Fits imports) (bodies : ∀ line ∈ body, line.IsBody) :
    ∀ line ∈ head ++ body, line.Fits imports := by
  intro line member
  rcases List.mem_append.mp member with inHead | inBody
  · exact heads line inHead
  · exact .body (bodies line inBody)

theorem fits_written (imports : Imports) : ∀ line ∈ imports.written, line.Fits imports := by
  intro line member
  obtain ⟨entry, entryMember, rfl⟩ := List.mem_map.mp member
  exact .entry entryMember rfl

theorem fits_codeBlock (imports : Imports) : ∀ line ∈ imports.codeBlock, line.Fits imports := by
  intro line member
  unfold Imports.codeBlock at member
  split at member
  · cases member
  · rcases List.mem_append.mp member with head | last
    · simp only [Imports.code, Imports.lines, List.map_map, List.mem_map, List.mem_filter] at head
      obtain ⟨entry, ⟨entryMember, -⟩, rfl⟩ := head
      exact .entry entryMember rfl
    · rw [List.mem_singleton.mp last]
      exact .body isBody_blank

theorem fits_codeBlock_ofList (entries : Imports) :
    ∀ line ∈ (Imports.ofList entries).codeBlock, line.Fits entries := by
  intro line member
  cases fits_codeBlock _ line member with
  | body body => exact .body body
  | entry collected same => exact .entry (Imports.mem_of_mem_ofList collected) same

end CodeLine

namespace Model

section
variable (settings : Settings) (model : Model)

theorem updateDtoLines_eq : model.updateDtoLines settings =
    (ArtifactKind.updateDto.imports settings model).written ++
      [.blank, ⟨0, "export class " ++ model.updateDtoName ++ " extends PartialType("
        ++ model.createDtoName ++ ") \x7b\x7d"⟩] := by
  have reference : ArtifactKind.updateDto.reference model .createDto =
      ("./create-" ++ model.folderName ++ ".dto", [model.createDtoName]) := by
    simp [ArtifactKind.reference, ArtifactKind.way, ArtifactKind.folders, ArtifactKind.stem,
      ArtifactKind.className, ← String.toList_inj]
  rw [ArtifactKind.imports, ArtifactKind.uses, List.map_singleton, reference]
  rfl

theorem wiringLines_eq : model.wiringLines settings =
    (ArtifactKind.wiring.imports settings model).written ++
      [.blank, ⟨0, "@Module(\x7b"⟩,
       ⟨1, "controllers: [" ++ model.controllerName ++ "],"⟩,
       ⟨1, "providers: [" ++ model.serviceName ++ ", PrismaService],"⟩,
       ⟨0, "\x7d)"⟩, ⟨0, "export class " ++ model.wiringName ++ " \x7b\x7d"⟩] := by
  have references : (ArtifactKind.wiring.uses settings).map (ArtifactKind.wiring.reference model) =
      [("./" ++ model.folderName ++ ".controller", [model.controllerName]),
       ("./" ++ model.folderName ++ ".service", [model.serviceName])] := by
    simp [ArtifactKind.uses, ArtifactKind.reference, ArtifactKind.way, ArtifactKind.folders,
      ArtifactKind.stem, ArtifactKind.className, ← String.toList_inj]
  rw [ArtifactKind.imports, references]
  rfl

theorem serviceImports_eq : model.serviceImports settings =
    (ArtifactKind.service.imports settings model).written := by
  have references : (ArtifactKind.service.uses settings).map (ArtifactKind.service.reference model) =
      [("./dto/create-" ++ model.folderName ++ ".dto", [model.createDtoName]),
       ("./dto/update-" ++ model.folderName ++ ".dto", [model.updateDtoName]),
       ("./dto/search-" ++ model.folderName ++ ".dto", [model.searchDtoName])] := by
    simp [ArtifactKind.uses, ArtifactKind.reference, ArtifactKind.way, ArtifactKind.folders,
      ArtifactKind.stem, ArtifactKind.className, ← String.toList_inj]
  rw [ArtifactKind.imports, references]
  rfl

theorem createDtoImports_eq : createDtoImports settings (model.dtoFields settings.excludedFields) =
    .ofList (ArtifactKind.createDto.imports settings model) := by
  rw [ArtifactKind.imports, ArtifactKind.uses, List.map_nil, List.append_nil]
  rfl

theorem entityImports_eq : entityImports settings model.fields =
    .ofList (ArtifactKind.entity.imports settings model) := by
  rw [ArtifactKind.imports, ArtifactKind.uses, List.map_nil, List.append_nil]
  rfl

theorem controllerImports_eq :
    model.controllerImports settings = .ofList (ArtifactKind.controller.imports settings model) := by
  have references : (ArtifactKind.controller.uses settings).map
      (ArtifactKind.controller.reference model) =
      [("./" ++ model.folderName ++ ".service", [model.serviceName]),
       ("./dto/create-" ++ model.folderName ++ ".dto", [model.createDtoName]),
       ("./dto/update-" ++ model.folderName ++ ".dto", [model.updateDtoName]),
       ("./dto/search-" ++ model.folderName ++ ".dto", [model.searchDtoName])]
        ++ (if settings.enableSwagger then
          [("./entities/" ++ model.folderName ++ ".entity", [model.entityName])] else []) := by
    cases documented : settings.enableSwagger <;>
      simp [ArtifactKind.uses, ArtifactKind.reference, ArtifactKind.way, ArtifactKind.folders,
        ArtifactKind.stem, ArtifactKind.className, documented, ← String.toList_inj]
  rw [ArtifactKind.imports, references, ← List.append_assoc]
  rfl

end

section
variable {model : Model} (writable : model.Writable)
include writable

theorem writable_of_mem_dtoFields (excluded : List String) :
    ∀ field ∈ model.dtoFields excluded, field.Writable :=
  fun field member => writable.fields field (List.mem_filter.mp member).1

theorem fits_updateDtoLines (settings : Settings) : ∀ line ∈ model.updateDtoLines settings,
    line.Fits (ArtifactKind.updateDto.imports settings model) := by
  have name := lacks_name writable
  rw [updateDtoLines_eq]
  apply CodeLine.fits_append (CodeLine.fits_written _)
  simp +decide [CodeLine.Inert, updateDtoName, createDtoName, name]

theorem fits_searchDtoLines (settings : Settings) : ∀ line ∈ model.searchDtoLines settings,
    line.Fits (ArtifactKind.searchDto.imports settings model) := by
  have name := lacks_name writable
  apply CodeLine.fits_append (CodeLine.fits_written (ArtifactKind.searchDto.imports settings model))
  simp +decide [CodeLine.Inert, searchDtoName, name]

theorem fits_wiringLines (settings : Settings) : ∀ line ∈ model.wiringLines settings,
    line.Fits (ArtifactKind.wiring.imports settings model) := by
  have name := lacks_name writable
  rw [wiringLines_eq]
  apply CodeLine.fits_append (CodeLine.fits_written _)
  simp +decide [CodeLine.Inert, controllerName, serviceName,
    wiringName, name]

theorem fits_serviceLines (settings : Settings) : ∀ line ∈ model.serviceLines settings,
    line.Fits (ArtifactKind.service.imports settings model) := by
  have name := lacks_name writable
  have opening : ∀ line ∈ [.blank, ⟨0, "@Injectable()"⟩, ⟨0, "export class " ++ model.serviceName ++ " \x7b"⟩,
      ⟨1, "constructor(private readonly prisma: PrismaService) \x7b\x7d"⟩, .blank],
      CodeLine.IsBody line := by
    simp +decide [CodeLine.Inert, serviceName, name]
  have methods := isBody_serviceMethods writable settings.defaultPageSize
  have closing : CodeLine.IsBody ⟨0, "\x7d"⟩ := by
    simp +decide [CodeLine.Inert]
  rw [serviceLines, serviceImports_eq]
  simp only [List.append_assoc]
  apply CodeLine.fits_append (CodeLine.fits_written _)
  simp only [List.forall_mem_append, List.forall_mem_singleton] at methods ⊢
  obtain ⟨⟨⟨⟨create, findAll⟩, findOne⟩, update⟩, remove⟩ := methods
  exact ⟨opening, create, CodeLine.isBody_blank, findAll, CodeLine.isBody_blank, findOne,
    CodeLine.isBody_blank, update, CodeLine.isBody_blank, remove, closing⟩

theorem fits_controllerLines {settings : Settings} (guard : Lacks '\n' settings.guardName) :
    ∀ line ∈ model.controllerLines settings,
      line.Fits (ArtifactKind.controller.imports settings model) := by
  rw [controllerLines_eq, controllerImports_eq]
  exact CodeLine.fits_append (CodeLine.fits_codeBlock_ofList _) (isBody_controllerCode writable guard)

end

end Model

namespace ArtifactKind

theorem fits_lines {settings : Settings} {model : Model} (writable : model.Writable)
    (guard : Lacks '\n' settings.guardName) (kind : ArtifactKind) :
    ∀ line ∈ kind.lines settings model, line.Fits (kind.imports settings model) := by
  have named (lead last : String) (leads : Lacks '\n' lead) (lasts : Lacks '\n' last) :
      Lacks '\n' (lead ++ model.name ++ last) := by
    rw [lacks_append, lacks_append]
    exact ⟨⟨leads, Model.lacks_name writable⟩, lasts⟩
  cases kind with
  | createDto =>
    rw [lines, Model.createDtoLines, Model.createDtoImports_eq]
    exact CodeLine.fits_append (CodeLine.fits_codeBlock_ofList _)
      (isBody_classLines (named "Create" "Dto" (by decide) (by decide))
        (Model.writable_of_mem_dtoFields writable _) _ _)
  | updateDto => exact Model.fits_updateDtoLines writable settings
  | searchDto => exact Model.fits_searchDtoLines writable settings
  | entity =>
    have entity : Lacks '\n' model.entityName := by
      rw [Model.entityName, lacks_append]
      exact ⟨Model.lacks_name writable, by decide⟩
    rw [lines, Model.entityLines, Model.entityImports_eq]
    exact CodeLine.fits_append (CodeLine.fits_codeBlock_ofList _)
      (isBody_classLines entity writable.fields _ _)
  | service => exact Model.fits_serviceLines writable settings
  | controller => exact Model.fits_controllerLines writable guard
  | wiring => exact Model.fits_wiringLines writable settings

theorem lines_ne_nil (settings : Settings) (model : Model) (kind : ArtifactKind) :
    kind.lines settings model ≠ [] := by
  cases kind <;>
    simp [lines, Model.createDtoLines, Model.updateDtoLines, Model.searchDtoLines,
      Model.entityLines, Model.serviceLines, Model.controllerLines, Model.wiringLines, classLines]

end ArtifactKind

/-- The import paths that the settings give. -/
def Settings.importPaths (settings : Settings) : List String :=
  [settings.guardImport, settings.prismaServiceImport, settings.enumImport, settings.baseQueryImport]

/-- Settings whose names and import paths can stand in import lines. -/
structure Settings.AllQuotable (settings : Settings) : Prop where
  guardName : Quotable settings.guardName
  paths : ∀ path ∈ settings.importPaths, Quotable path

/-- Settings whose names and import paths stand on one line. -/
structure Settings.Unbroken (settings : Settings) : Prop where
  guardName : Lacks '\n' settings.guardName
  paths : ∀ path ∈ settings.importPaths, Lacks '\n' path

/-- Entries whose modules and names all have some property. -/
def Imports.All (P : String → Prop) (imports : Imports) : Prop :=
  ∀ entry ∈ imports, P entry.1 ∧ ∀ name ∈ entry.2, P name

namespace Imports

variable {P : String → Prop}

theorem all_nil : All P [] :=
  fun _ member => nomatch member

theorem all_cons {source : String} {names : List String} {imports : Imports} :
    All P ((source, names) :: imports) ↔ (P source ∧ ∀ name ∈ names, P name) ∧ imports.All P :=
  List.forall_mem_cons

theorem all_append {imports others : Imports} :
    All P (imports ++ others) ↔ imports.All P ∧ others.All P :=
  List.forall_mem_append

theorem all_if {condition : Bool} {imports : Imports} (all : imports.All P) :
    All P (if condition then imports else []) := by
  split
  · exact all
  · exact all_nil

end Imports

namespace ArtifactKind

/-- The packages that generated code is built on. -/
def packages : List String :=
  [swaggerModule, validatorModule, commonModule, mappedTypesModule, transformerModule]

/-- The names that generated code takes from packages and along the paths of the settings. -/
def packageNames : List String :=
  ["PartialType", "BaseQueryDto", "Injectable", "PrismaService", "Module", "Type", "Min"]
    ++ checkOrder ++ exposureOrder ++ Model.commonNames true true ++ Model.swaggerNames true

/-- A property of all modules and names that the artifacts of a model import. -/
structure Imported (P : String → Prop) (settings : Settings) (model : Model) : Prop where
  packages : ∀ source ∈ packages, P source
  packageNames : ∀ name ∈ packageNames, P name
  guardName : P settings.guardName
  paths : ∀ path ∈ settings.importPaths, P path
  enumName : ∀ field ∈ model.fields, field.isEnum = true → P field.baseType
  className : ∀ target : ArtifactKind, P (target.className model)
  reference : ∀ kind target : ArtifactKind, P (kind.reference model target).1

section
variable {P : String → Prop}

theorem all_enumsUsed {fields : List Field}
    (inModel : ∀ field ∈ fields, field.isEnum = true → P field.baseType) :
    ∀ name ∈ enumsUsed fields, P name := by
  intro name member
  obtain ⟨field, fieldMember, rfl⟩ := List.mem_map.mp (List.mem_eraseDups.mp member)
  obtain ⟨inFields, declared⟩ := List.mem_filter.mp fieldMember
  exact inModel field inFields declared

variable {settings : Settings} {model : Model} (imported : Imported P settings model)
include imported

theorem all_checksUsed (fields : List Field) : ∀ name ∈ checksUsed fields, P name := by
  have listed : checkOrder ⊆ packageNames := by decide
  exact fun name member => imported.packageNames name (listed (List.mem_filter.mp member).1)

theorem all_exposuresUsed (fields : List Field) : ∀ name ∈ exposuresUsed fields, P name := by
  have listed : exposureOrder ⊆ packageNames := by decide
  exact fun name member => imported.packageNames name (listed (List.mem_filter.mp member).1)

theorem all_outsideImports (kind : ArtifactKind) : (kind.outsideImports settings model).All P := by
  obtain ⟨guard, service, enums, base⟩ :
      P settings.guardImport ∧ P settings.prismaServiceImport ∧
        P settings.enumImport ∧ P settings.baseQueryImport := by
    simpa [Settings.importPaths] using imported.paths
  have named (name : String) (listed : name ∈ packageNames) : ∀ other ∈ [name], P other :=
    List.forall_mem_singleton.mpr (imported.packageNames name listed)
  have documented (fields : List Field) : Imports.All P
      (if settings.enableSwagger then [(swaggerModule, exposuresUsed fields)] else []) :=
    Imports.all_if (Imports.all_cons.mpr
      ⟨⟨imported.packages _ (by decide), all_exposuresUsed imported fields⟩, Imports.all_nil⟩)
  have database : Imports.All P [(settings.prismaServiceImport, ["PrismaService"])] :=
    Imports.all_cons.mpr ⟨⟨service, named _ (by decide)⟩, Imports.all_nil⟩
  have enumerations (fields : List Field) (inModel : fields ⊆ model.fields) :
      Imports.All P [(settings.enumImport, enumsUsed fields)] :=
    Imports.all_cons.mpr ⟨⟨enums, all_enumsUsed fun field member =>
      imported.enumName field (inModel member)⟩, Imports.all_nil⟩
  cases kind with
  | createDto =>
    apply Imports.all_append.mpr
    refine ⟨documented _, Imports.all_cons.mpr
      ⟨⟨imported.packages _ (by decide), all_checksUsed imported _⟩, ?_⟩⟩
    exact enumerations _ fun field member => (List.mem_filter.mp member).1
  | updateDto =>
    apply Imports.all_cons.mpr
    refine ⟨⟨imported.packages _ ?_, named _ (by decide)⟩, Imports.all_nil⟩
    split <;> decide
  | searchDto => exact Imports.all_cons.mpr ⟨⟨base, named _ (by decide)⟩, Imports.all_nil⟩
  | entity => exact Imports.all_append.mpr ⟨documented _, enumerations _ (List.Subset.refl _)⟩
  | service =>
    exact Imports.all_cons.mpr ⟨⟨imported.packages _ (by decide), named _ (by decide)⟩, database⟩
  | controller =>
    have common : ∀ guarded numericId, Model.commonNames guarded numericId ⊆ packageNames := by decide
    have swagger : ∀ guarded, Model.swaggerNames guarded ⊆ packageNames := by decide
    apply Imports.all_append.mpr
    refine ⟨Imports.all_append.mpr ⟨?_, Imports.all_if ?_⟩, Imports.all_if ?_⟩
    · exact Imports.all_cons.mpr ⟨⟨imported.packages _ (by decide),
        fun name member => imported.packageNames name (common _ _ member)⟩, Imports.all_nil⟩
    · exact Imports.all_cons.mpr ⟨⟨imported.packages _ (by decide),
        fun name member => imported.packageNames name (swagger _ member)⟩, Imports.all_nil⟩
    · exact Imports.all_cons.mpr
        ⟨⟨guard, List.forall_mem_singleton.mpr imported.guardName⟩, Imports.all_nil⟩
  | wiring =>
    exact Imports.all_cons.mpr ⟨⟨imported.packages _ (by decide), named _ (by decide)⟩, database⟩

theorem all_imports (kind : ArtifactKind) : (kind.imports settings model).All P := by
  apply Imports.all_append.mpr
  refine ⟨all_outsideImports imported kind, ?_⟩
  intro entry member
  obtain ⟨target, -, rfl⟩ := List.mem_map.mp member
  exact ⟨imported.reference kind target, List.forall_mem_singleton.mpr (imported.className target)⟩

end

section
variable {settings : Settings} {model : Model} (writable : model.Writable)
include writable

theorem quotable_className (target : ArtifactKind) : Quotable (target.className model) :=
  ⟨lacks_className (writable.name.lacks (by decide)) (by decide) target,
    lacks_className (writable.name.lacks (by decide)) (by decide) target⟩

-- What no folder, no stem and no separator of modules holds, no module of an artifact holds.
theorem lacks_reference {sign : Char} (outside : isLabelChar sign = false)
    (plain : ∀ kind ∈ all, Lacks sign (stem "" kind) ∧ ∀ name ∈ kind.folders, Lacks sign name)
    (separators : Lacks sign "/" ∧ Lacks sign ".") (kind target : ArtifactKind) :
    Lacks sign (kind.reference model target).1 := by
  have stem : Lacks sign (target.stem model.folderName) :=
    lacks_stem (writable.isLabel_folderName.lacks outside) (fun kind member => (plain kind member).1) target
  change Lacks sign (String.intercalate "/" (way model.folderName kind target))
  apply lacks_intercalate separators.1
  intro name member
  simp only [way, List.cons_append, List.mem_cons, List.mem_append, List.not_mem_nil, or_false] at member
  rcases member with rfl | below | rfl
  · exact separators.2
  · exact (plain target (mem_all target)).2 name (List.mem_of_mem_drop below)
  · exact stem

theorem imported_quotable (quotable : settings.AllQuotable) : Imported Quotable settings model where
  packages := by decide
  packageNames := by decide
  guardName := quotable.guardName
  paths := quotable.paths
  enumName := fun field member declared =>
    have word := (writable.fields field member).enumName declared
    ⟨word.lacks (by decide), word.lacks (by decide)⟩
  className := quotable_className writable
  reference := fun kind target =>
    ⟨lacks_reference writable (by decide) (by decide) (by decide) kind target,
      lacks_reference writable (by decide) (by decide) (by decide) kind target⟩

theorem imported_unbroken (unbroken : settings.Unbroken) : Imported (Lacks '\n') settings model where
  packages := by decide
  packageNames := by decide
  guardName := unbroken.guardName
  paths := unbroken.paths
  enumName := fun field member declared =>
    ((writable.fields field member).enumName declared).lacks (by decide)
  className := lacks_className (Model.lacks_name writable) (by decide)
  reference := lacks_reference writable (by decide) (by decide) (by decide)

theorem allQuotable_imports (quotable : settings.AllQuotable) (kind : ArtifactKind) :
    (kind.imports settings model).AllQuotable :=
  all_imports (imported_quotable writable quotable) kind

end

-- What comes from outside of the model comes from a package or along a path of the settings.
theorem source_of_mem_outsideImports {settings : Settings} {model : Model} {kind : ArtifactKind} :
    ∀ entry ∈ kind.outsideImports settings model, entry.1 ∈ packages ++ settings.importPaths := by
  cases kind <;> cases documented : settings.enableSwagger <;> cases guarded : settings.enableGuards <;>
    simp [outsideImports, packages, Settings.importPaths, documented, guarded]

end ArtifactKind

/-- What the base query imports. -/
def baseQueryImports (settings : Settings) : Imports :=
  (if settings.enableSwagger then [(swaggerModule, ["ApiPropertyOptional"])] else [])
    ++ [(transformerModule, ["Type"]), (validatorModule, ["IsInt", "IsOptional", "Min"])]

theorem baseQueryLines_eq (settings : Settings) :
    baseQueryLines settings = (baseQueryImports settings).codeBlock ++ baseQueryCode settings := by
  simp only [baseQueryLines, baseQueryImports, baseQueryCode, List.append_assoc]

theorem fits_baseQueryLines (settings : Settings) :
    ∀ line ∈ baseQueryLines settings, line.Fits (baseQueryImports settings) := by
  rw [baseQueryLines_eq]
  exact CodeLine.fits_append (CodeLine.fits_codeBlock (baseQueryImports settings))
    (isBody_baseQueryCode settings)

theorem packages_of_mem_baseQueryImports {settings : Settings} :
    ∀ entry ∈ baseQueryImports settings, entry.1 ∈ ArtifactKind.packages := by
  unfold baseQueryImports
  cases settings.enableSwagger <;> simp [ArtifactKind.packages]

theorem all_baseQueryImports {P : String → Prop} (packages : ∀ source ∈ ArtifactKind.packages, P source)
    (names : ∀ name ∈ ArtifactKind.packageNames, P name) (settings : Settings) :
    (baseQueryImports settings).All P := by
  intro entry member
  refine ⟨packages _ (packages_of_mem_baseQueryImports entry member), fun name named => names name ?_⟩
  have listed : ∀ documented, ∀ entry ∈ baseQueryImports { enableSwagger := documented },
      entry.2 ⊆ ArtifactKind.packageNames := by decide
  exact listed settings.enableSwagger entry member named

theorem allQuotable_baseQueryImports (settings : Settings) :
    (baseQueryImports settings).AllQuotable :=
  all_baseQueryImports (by decide) (by decide) settings

end PrismaNest
