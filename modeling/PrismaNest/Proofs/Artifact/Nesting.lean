import PrismaNest.Proofs.Artifact.Imports
import PrismaNest.Proofs.Code.Nesting
import PrismaNest.Proofs.Schema.Nesting

/-! Generated code is nested.

Each import line and each member of a class closes what it opens, whichever decorators the settings
ask for, and so does the class around its members. Names are bracketless, so the brackets of a member
are those of its fixed text.
-/

set_option autoImplicit false

namespace PrismaNest

open Text

/-- Settings whose guard and import paths hold no brackets. -/
structure Settings.Bracketless (settings : Settings) : Prop where
  guardName : brackets settings.guardName = []
  paths : ∀ path ∈ settings.importPaths, brackets path = []

/-- A text whose brackets match, and that ends with a closing brace and one line feed. -/
structure WellBracketed (text : String) : Prop where
  nested : Nested text.toList
  ends : "\x7d\n".toList <:+ text.toList

theorem IsLabel.brackets_eq_nil {text : String} (label : IsLabel text) : brackets text = [] :=
  brackets_eq_nil_of_forall (by decide) label.label

/-! ### Imports -/

namespace Imports

/-- Entries whose modules and names hold no brackets. -/
def Bracketless (imports : Imports) : Prop :=
  imports.All fun text => brackets text = []

theorem nested_line {source : String} {names : List String} (plainSource : brackets source = [])
    (plainNames : ∀ name ∈ names, brackets name = []) : Nested (brackets (line names source)) := by
  have listed : brackets (String.intercalate ", " names.eraseDups) = [] := by
    rw [brackets_intercalate rfl, List.flatMap_eq_nil_iff]
    exact fun name member => plainNames name (List.mem_eraseDups.mp member)
  simp only [line, brackets_append, listed, plainSource]
  decide

theorem nested_written {imports : Imports} (plain : imports.Bracketless) :
    Nested (CodeLine.brackets imports.written) := by
  apply CodeLine.nested_brackets_of_forall
  intro line member
  obtain ⟨entry, entryMember, rfl⟩ := List.mem_map.mp member
  obtain ⟨source, names⟩ := plain entry entryMember
  exact nested_line source names

theorem nested_codeBlock {imports : Imports} (plain : imports.Bracketless) :
    Nested (CodeLine.brackets imports.codeBlock) := by
  apply CodeLine.nested_brackets_of_forall
  intro line member
  unfold codeBlock at member
  split at member
  · cases member
  · rcases List.mem_append.mp member with head | last
    · simp only [code, lines, List.map_map, List.mem_map, List.mem_filter] at head
      obtain ⟨entry, ⟨collected, -⟩, rfl⟩ := head
      obtain ⟨source, names⟩ := plain entry collected
      exact nested_line source names
    · rw [List.mem_singleton.mp last]
      exact .nil

theorem nested_codeBlock_ofList {entries : Imports} (plain : entries.Bracketless) :
    Nested (CodeLine.brackets (ofList entries).codeBlock) :=
  nested_codeBlock fun entry collected => plain entry (mem_of_mem_ofList collected)

end Imports

theorem nested_class {name : String} (plain : brackets name = []) {members : List CodeLine}
    (nested : Nested (CodeLine.brackets members)) :
    Nested (CodeLine.brackets
      ([⟨0, "export class " ++ name ++ " \x7b"⟩] ++ members ++ [⟨0, "\x7d"⟩])) := by
  have marks : brackets "export class " = [] ∧ brackets " \x7b" = ['\x7b'] ∧
      brackets "\x7d" = ['\x7d'] := by decide
  simp only [CodeLine.brackets_append, CodeLine.brackets_cons, CodeLine.brackets_nil,
    brackets_append, plain, marks]
  exact nested.enclose (by decide)

/-- An endpoint whose parts are nested, each for itself. -/
structure Endpoint.NestedParts (endpoint : Endpoint) : Prop where
  route : Nested (brackets endpoint.route)
  documentation : Nested (CodeLine.brackets endpoint.documentation)
  signature : Nested (brackets endpoint.signature)
  call : Nested (brackets endpoint.call)

theorem Endpoint.nestedParts_iff {endpoint : Endpoint} : endpoint.NestedParts ↔
    Nested (brackets endpoint.route) ∧ Nested (CodeLine.brackets endpoint.documentation) ∧
      Nested (brackets endpoint.signature) ∧ Nested (brackets endpoint.call) :=
  ⟨fun parts => ⟨parts.route, parts.documentation, parts.signature, parts.call⟩,
    fun ⟨route, documentation, signature, call⟩ => ⟨route, documentation, signature, call⟩⟩

theorem nested_endpointLines {endpoint : Endpoint} (parts : endpoint.NestedParts) (documented : Bool) :
    Nested (CodeLine.brackets (endpoint.lines documented)) := by
  have documentation : Nested (CodeLine.brackets
      (if documented then endpoint.documentation.map (CodeLine.inside 1) else [])) := by
    split
    · rw [CodeLine.brackets_map_inside]
      exact parts.documentation
    · exact .nil
  have body : Nested ('\x7b' :: (brackets endpoint.call ++ ['\x7d'])) := parts.call.enclose (by decide)
  have method : Nested (brackets endpoint.signature ++ '\x7b' :: (brackets endpoint.call ++ ['\x7d'])) :=
    parts.signature.append body
  have written : CodeLine.brackets (endpoint.lines documented) = brackets endpoint.route ++
      (CodeLine.brackets (if documented then endpoint.documentation.map (CodeLine.inside 1) else []) ++
        (brackets endpoint.signature ++ '\x7b' :: (brackets endpoint.call ++ ['\x7d']))) := by
    have marks : brackets "@" = [] ∧ brackets " \x7b" = ['\x7b'] ∧ brackets "return " = [] ∧
        brackets ";" = [] ∧ brackets "\x7d" = ['\x7d'] := by decide
    simp [Endpoint.lines, marks]
  rw [written]
  exact parts.route.append (documentation.append method)

namespace Model

section
variable {model : Model} (writable : model.Writable)
include writable

theorem brackets_name : brackets model.name = [] :=
  writable.name.brackets_eq_nil

theorem brackets_handle : brackets model.handle = [] :=
  brackets_eq_nil_iff.mpr fun _ bracket =>
    Naming.lacks_lowerFirst (not_of_mem_bracketSigns (by decide) bracket) writable.name.word

omit writable in
theorem brackets_route (model : Model) : brackets model.route = [] :=
  brackets_eq_nil_iff.mpr fun _ bracket =>
    Naming.lacks_kebabCase (not_of_mem_bracketSigns (by decide) bracket)
      (ne_of_mem_of_not_mem bracket (by decide)) _

omit writable in
theorem brackets_idType (model : Model) : brackets model.idType = [] := by
  unfold idType
  split <;> rfl

omit writable in
theorem brackets_idParameter (model : Model) : brackets model.idParameter = ['(', ')'] := by
  unfold idParameter
  rw [brackets_append, brackets_idType]
  split <;> rfl

/-- What stands in the class of a service. -/
def serviceMembers (pageSize : Nat) (model : Model) : List CodeLine :=
  [⟨1, "constructor(private readonly prisma: PrismaService) \x7b\x7d"⟩, .blank]
    ++ model.serviceCreate ++ [.blank] ++ model.serviceFindAll pageSize ++ [.blank]
    ++ model.serviceFindOne ++ [.blank] ++ model.serviceUpdate ++ [.blank] ++ model.serviceRemove

theorem nested_serviceMembers (pageSize : Nat) :
    Nested (CodeLine.brackets (model.serviceMembers pageSize)) := by
  have name := brackets_name writable
  have handle := brackets_handle writable
  have size : brackets (toString pageSize) = [] := brackets_repr pageSize
  have idType := brackets_idType model
  simp only [serviceMembers, serviceCreate, serviceFindAll, serviceFindOne, serviceUpdate,
    serviceRemove, createArgument, updateArgument, createDtoName, updateDtoName, searchDtoName, rows,
    CodeLine.brackets_append, CodeLine.brackets_cons, CodeLine.brackets_nil, brackets_append, name,
    handle, size, idType]
  decide +kernel

theorem nested_serviceLines {settings : Settings}
    (imports : (ArtifactKind.service.imports settings model).Bracketless) :
    Nested (CodeLine.brackets (model.serviceLines settings)) := by
  have name : brackets model.serviceName = [] := by
    simp only [serviceName, brackets_append, brackets_name writable]
    rfl
  have decorator : Nested (CodeLine.brackets [.blank, ⟨0, "@Injectable()"⟩]) := by decide
  have written : model.serviceLines settings =
      (ArtifactKind.service.imports settings model).written ++ ([.blank, ⟨0, "@Injectable()"⟩] ++
        ([⟨0, "export class " ++ model.serviceName ++ " \x7b"⟩]
          ++ model.serviceMembers settings.defaultPageSize ++ [⟨0, "\x7d"⟩])) := by
    simp only [serviceLines, serviceImports_eq, serviceMembers, List.append_assoc]
    rfl
  rw [written, CodeLine.brackets_append, CodeLine.brackets_append]
  exact (Imports.nested_written imports).append
    (decorator.append (nested_class name (nested_serviceMembers writable _)))

theorem nested_endpoints (documented : Bool) :
    Nested (CodeLine.brackets (model.endpoints.flatMap (Endpoint.lines documented))) := by
  have name := brackets_name writable
  have handle := brackets_handle writable
  have parameter := brackets_idParameter model
  have parts : ∀ endpoint ∈ model.endpoints, endpoint.NestedParts := by
    simp only [endpoints, List.forall_mem_cons, Endpoint.nestedParts_iff,
      entityDocumentation, pageDocumentation, serviceMember, createArgument, updateArgument,
      createDtoName, updateDtoName, searchDtoName, entityName, List.map_cons, List.map_nil,
      CodeLine.brackets_append, CodeLine.brackets_cons, CodeLine.brackets_nil, brackets_append,
      name, handle, parameter]
    decide +kernel
  apply CodeLine.nested_brackets_flatMap
  exact fun endpoint member => nested_endpointLines (parts endpoint member) documented

theorem nested_controllerDecorators {settings : Settings} (guard : brackets settings.guardName = []) :
    Nested (CodeLine.brackets (model.controllerDecorators settings)) := by
  have name := brackets_name writable
  have route := brackets_route model
  unfold controllerDecorators
  cases settings.enableSwagger <;> cases settings.enableGuards <;>
    simp only [entityName, name, route, guard, CodeLine.brackets_cons, CodeLine.brackets_nil,
      brackets_append, CodeLine.brackets_append, Bool.and_self, Bool.and_true, Bool.and_false, Bool.false_eq_true, ↓reduceIte] <;>
    decide +kernel

theorem nested_controllerLines {settings : Settings} (guard : brackets settings.guardName = [])
    (imports : (ArtifactKind.controller.imports settings model).Bracketless) :
    Nested (CodeLine.brackets (model.controllerLines settings)) := by
  have name : brackets model.controllerName = [] := by
    simp only [controllerName, brackets_append, brackets_name writable]
    rfl
  have construction : Nested (CodeLine.brackets [⟨1, "constructor(private readonly "
      ++ model.serviceMember ++ ": " ++ model.serviceName ++ ") \x7b\x7d"⟩]) := by
    simp only [serviceMember, serviceName, CodeLine.brackets_cons, CodeLine.brackets_nil,
      brackets_append, brackets_name writable, brackets_handle writable]
    decide
  have members := construction.append (nested_endpoints writable settings.enableSwagger)
  rw [← CodeLine.brackets_append] at members
  have written : model.controllerLines settings =
      (Imports.ofList (ArtifactKind.controller.imports settings model)).codeBlock ++
        (model.controllerDecorators settings ++
          ([⟨0, "export class " ++ model.controllerName ++ " \x7b"⟩] ++
            ([⟨1, "constructor(private readonly " ++ model.serviceMember ++ ": "
              ++ model.serviceName ++ ") \x7b\x7d"⟩]
              ++ model.endpoints.flatMap (Endpoint.lines settings.enableSwagger)) ++ [⟨0, "\x7d"⟩])) := by
    simp only [controllerLines, controllerImports_eq, List.append_assoc]
    rfl
  rw [written, CodeLine.brackets_append, CodeLine.brackets_append]
  exact (Imports.nested_codeBlock_ofList imports).append
    ((nested_controllerDecorators writable guard).append (nested_class name members))

end

end Model

theorem nested_propertyLines {field : Field} (parts : field.NestedParts) (checked documented : Bool) :
    ∀ line ∈ field.propertyLines checked documented, Nested (brackets line.text) := by
  have decorator : ∀ text, Nested (brackets text) → Nested (brackets (decoratorLine text).text) := by
    intro text nested
    rw [decoratorLine, brackets_append]
    exact nested
  have mark : brackets field.optionalMark = [] := by
    unfold Field.optionalMark
    split <;> rfl
  intro line member
  rcases Field.cases_of_mem_propertyLines member with ⟨check, checkMember, rfl⟩ | rfl | rfl
  · exact decorator check (parts.checks check checkMember)
  · exact decorator field.exposure parts.exposure
  · simp only [brackets_append, parts.name, mark]
    exact parts.tsType.append .nil

theorem nested_classLines {name : String} (plain : brackets name = []) {fields : List Field}
    (parts : ∀ field ∈ fields, field.NestedParts) (checked documented : Bool) :
    Nested (CodeLine.brackets (classLines name fields checked documented)) := by
  have body : Nested (CodeLine.brackets (classBody fields checked documented)) := by
    apply CodeLine.nested_brackets_of_forall
    intro line member
    rcases exists_field_of_mem_classBody member with rfl | ⟨field, fieldMember, lineMember⟩
    · exact .nil
    · exact nested_propertyLines (parts field fieldMember) checked documented line lineMember
  exact nested_class plain body

/-! ### Artifacts -/

namespace ArtifactKind

theorem imported_bracketless {settings : Settings} {model : Model} (writable : model.Writable)
    (plain : settings.Bracketless) : Imported (fun text => brackets text = []) settings model := by
  have fixed : ∀ kind ∈ all, brackets (stem "" kind) = [] ∧ ∀ name ∈ kind.folders, brackets name = [] := by
    decide
  have classes : ∀ kind ∈ all, brackets (className ⟨"", []⟩ kind) = [] := by decide
  have separators : brackets "/" = [] ∧ brackets "." = [] := by decide
  have name := Model.brackets_name writable
  simp only [brackets_eq_nil_iff] at fixed classes separators name
  constructor
  · decide
  · decide
  · exact plain.guardName
  · exact plain.paths
  · exact fun field member declared => ((writable.fields field member).enumName declared).brackets_eq_nil
  · intro target
    rw [brackets_eq_nil_iff]
    intro sign bracket
    exact lacks_className (name sign bracket) (fun kind member => classes kind member sign bracket) target
  · intro kind target
    rw [brackets_eq_nil_iff]
    intro sign bracket
    refine lacks_reference writable (not_of_mem_bracketSigns (by decide) bracket) (fun kind member => ?_)
      ⟨separators.1 sign bracket, separators.2 sign bracket⟩ kind target
    obtain ⟨stem, folders⟩ := fixed kind member
    exact ⟨stem sign bracket, fun name inFolders => folders name inFolders sign bracket⟩

theorem nested_lines {settings : Settings} (plain : settings.Bracketless) {model : Model}
    (writable : model.Writable) (parts : ∀ field ∈ model.fields, field.NestedParts)
    (kind : ArtifactKind) : Nested (CodeLine.brackets (kind.lines settings model)) := by
  have imports : (kind.imports settings model).Bracketless :=
    all_imports (imported_bracketless writable plain) kind
  have named := Model.brackets_name writable
  cases kind with
  | createDto =>
    have name : brackets model.createDtoName = [] := by
      simp only [Model.createDtoName, brackets_append, named]
      rfl
    rw [lines, Model.createDtoLines, Model.createDtoImports_eq, CodeLine.brackets_append]
    exact (Imports.nested_codeBlock_ofList imports).append
      (nested_classLines name (fun field member => parts field (List.mem_filter.mp member).1) _ _)
  | updateDto =>
    rw [lines, Model.updateDtoLines_eq, CodeLine.brackets_append]
    refine (Imports.nested_written imports).append ?_
    simp only [CodeLine.brackets_cons, CodeLine.brackets_nil, CodeLine.brackets_blank, brackets_append,
      Model.updateDtoName, Model.createDtoName, named]
    decide
  | searchDto =>
    have written : model.searchDtoLines settings = (searchDto.imports settings model).written ++
        [.blank, ⟨0, "export class " ++ model.searchDtoName ++ " extends BaseQueryDto \x7b\x7d"⟩] := rfl
    rw [lines, written, CodeLine.brackets_append]
    refine (Imports.nested_written imports).append ?_
    simp only [CodeLine.brackets_cons, CodeLine.brackets_nil, CodeLine.brackets_blank, brackets_append,
      Model.searchDtoName, named]
    decide
  | entity =>
    have name : brackets model.entityName = [] := by
      simp only [Model.entityName, brackets_append, named]
      rfl
    rw [lines, Model.entityLines, Model.entityImports_eq, CodeLine.brackets_append]
    exact (Imports.nested_codeBlock_ofList imports).append (nested_classLines name parts _ _)
  | service => exact Model.nested_serviceLines writable imports
  | controller => exact Model.nested_controllerLines writable plain.guardName imports
  | wiring =>
    rw [lines, Model.wiringLines_eq, CodeLine.brackets_append]
    refine (Imports.nested_written imports).append ?_
    simp only [CodeLine.brackets_cons, CodeLine.brackets_nil, CodeLine.brackets_blank, brackets_append,
      Model.controllerName, Model.serviceName, Model.wiringName, named]
    decide

-- The last line closes the class.
theorem exists_last (settings : Settings) (model : Model) (kind : ArtifactKind) :
    ∃ front last, kind.lines settings model = front ++ [last] ∧
      "\x7d".toList <:+ last.text.toList := by
  have closing (text : String) {ending : String} (ends : "\x7d".toList <:+ ending.toList) :
      "\x7d".toList <:+ (text ++ ending).toList := by
    rw [String.toList_append]
    exact ends.trans (List.suffix_append _ _)
  cases kind with
  | createDto => exact ⟨_, ⟨0, "\x7d"⟩, (List.append_assoc _ _ _).symm, List.suffix_refl _⟩
  | updateDto => exact ⟨[_, _, _], _, rfl, closing _ (by decide)⟩
  | searchDto => exact ⟨[_, _], _, rfl, closing _ (by decide)⟩
  | entity => exact ⟨_, ⟨0, "\x7d"⟩, (List.append_assoc _ _ _).symm, List.suffix_refl _⟩
  | service => exact ⟨_, ⟨0, "\x7d"⟩, rfl, List.suffix_refl _⟩
  | controller => exact ⟨_, ⟨0, "\x7d"⟩, rfl, List.suffix_refl _⟩
  | wiring => exact ⟨[_, _, _, _, _, _, _, _, _], _, rfl, closing _ (by decide)⟩

end ArtifactKind

theorem nested_pagingKeyLines (documented : Bool) (key : String) (plain : brackets key = [])
    (default : Nat) : Nested (CodeLine.brackets (pagingKeyLines documented key default)) := by
  have size : brackets (toString default) = [] := brackets_repr default
  cases documented <;>
    simp only [pagingKeyLines, plain, size, CodeLine.brackets_append, CodeLine.brackets_cons,
      CodeLine.brackets_nil, brackets_append, Bool.false_eq_true, ↓reduceIte] <;>
    decide

theorem nested_baseQueryLines (settings : Settings) :
    Nested (CodeLine.brackets (baseQueryLines settings)) := by
  have imports : Imports.Bracketless (baseQueryImports settings) :=
    all_baseQueryImports (by decide) (by decide) settings
  have blank : Nested (CodeLine.brackets [.blank]) := .nil
  have keys := (nested_pagingKeyLines settings.enableSwagger "page" (by decide) 1).append
    (blank.append
      (nested_pagingKeyLines settings.enableSwagger "limit" (by decide) settings.defaultPageSize))
  rw [← CodeLine.brackets_append, ← CodeLine.brackets_append] at keys
  have written : baseQueryLines settings = (baseQueryImports settings).codeBlock ++
      ([⟨0, "export class " ++ "BaseQueryDto" ++ " \x7b"⟩] ++
        (pagingKeyLines settings.enableSwagger "page" 1 ++ ([.blank] ++
          pagingKeyLines settings.enableSwagger "limit" settings.defaultPageSize)) ++ [⟨0, "\x7d"⟩]) := by
    simp only [baseQueryLines, baseQueryImports, List.append_assoc]
    rfl
  rw [written, CodeLine.brackets_append]
  exact (Imports.nested_codeBlock imports).append (nested_class (by decide) keys)

namespace CodeWriter

/-- Whatever a parsed schema declares, every artifact of its models and the base query close all that
they open, in the right order, and end with the brace of a class and a line feed. -/
theorem wellBracketed_of_ofText {text : String} {source : Option String} {model : Model}
    (member : model ∈ (Schema.ofText text source).models) {writer : CodeWriter}
    (plain : writer.settings.Bracketless) :
    (∀ kind, WellBracketed (writer.artifact kind model)) ∧ WellBracketed writer.baseQuery := by
  constructor
  · intro kind
    obtain ⟨front, last, written, ends⟩ := kind.exists_last writer.settings model
    constructor
    · rw [← nested_brackets, artifact, CodeLine.brackets_renderAll]
      exact kind.nested_lines plain (Schema.writable_of_mem_models member)
        (Schema.nestedParts_of_mem_models member)
    · rw [artifact, written]
      exact CodeLine.suffix_renderAll ends writer.width
  · constructor
    · rw [← nested_brackets, baseQuery, CodeLine.brackets_renderAll]
      exact nested_baseQueryLines writer.settings
    · have closing : "\x7d".toList <:+ (CodeLine.mk 0 "\x7d").text.toList := List.suffix_refl _
      exact CodeLine.suffix_renderAll closing writer.width

/-- A model with a list and an optional field of an enumeration, guarded and documented. -/
theorem wellBracketed_of_ofText_guarded :
    let models := (Schema.ofText
      "enum Role \x7b\n ADMIN\n\x7d\nmodel User \x7b\n id Int @id\n tags String[]\n role Role?\n\x7d" none).models
    let writer := ofSettings {}
    models.map Model.name = ["User"] ∧ writer.settings.Bracketless ∧
      ∀ model ∈ models,
        (∀ kind, WellBracketed (writer.artifact kind model)) ∧ WellBracketed writer.baseQuery := by
  intro models writer
  have plain : writer.settings.Bracketless := ⟨by decide, by decide⟩
  exact ⟨by decide +kernel, plain, fun model member => wellBracketed_of_ofText member plain⟩

end CodeWriter

end PrismaNest
