import PrismaNest.Proofs.Artifact.Nesting
import PrismaNest.Proofs.Artifact.PropertyClasses
import PrismaNest.Proofs.Code.Documentation

/-! Artifacts without their documentation.

Writing artifacts without documentation leaves out what is for documentation, and changes nothing else.
The imports of both settings differ in the modules for documentation, and their bodies in decorators;
each decorator closes the parentheses that it opens, so it ends where it is expected to.
-/

set_option autoImplicit false

namespace PrismaNest

open Text CodeLine

theorem Text.Nested.count_eq {text : List Char} (nested : Nested text) :
    text.count '(' = text.count ')' := by
  induction nested with
  | nil => rfl
  | @other c text plain _ ih =>
    have opening : c ≠ '(' := by
      rintro rfl
      exact absurd plain (by decide)
    have closing : c ≠ ')' := by
      rintro rfl
      exact absurd plain (by decide)
    rw [List.count_cons_of_ne opening, List.count_cons_of_ne closing, ih]
  | @pair opening closing inner rest isPair _ _ ihInner ihRest =>
    have counts : ∀ pair ∈ bracketPairs, [pair.1, pair.2].count '(' = [pair.1, pair.2].count ')' := by
      decide
    have same := counts _ isPair
    simp only [List.count_cons, List.count_append, List.count_nil] at same ⊢
    omega

theorem prefix_exposureFor (isOptional isArray : Bool) (enumName : Option String) :
    "Api".toList <+: (exposureFor isOptional isArray enumName).toList := by
  have decorator : "Api".toList <+: (if isOptional then "ApiPropertyOptional" else "ApiProperty").toList := by
    cases isOptional <;> decide
  unfold exposureFor
  dsimp only
  generalize (enumName.map ("enum: " ++ ·)).toList ++ (if isArray then ["isArray: true"] else []) = options
  split
  · rw [String.toList_append]
    exact decorator.trans (List.prefix_append _ _)
  · rw [String.append_assoc, String.append_assoc, String.toList_append]
    exact decorator.trans (List.prefix_append _ _)

section
variable {width : Nat}

theorem undocuments_line {line : CodeLine} (starts : startsDocumentation line.text.toList = true)
    (nested : Nested (Text.brackets line.text)) : Undocuments width [line] [] := by
  apply undocuments_decorator starts
  rw [closesWith, openAfter, nested.count_eq, Nat.zero_add, Nat.sub_self]
  rfl

/-! ### Classes of properties -/

section
variable {enumNames : List String} {field : Field} (typed : field.Typed enumNames)
include typed

theorem head?_of_mem_checks : ∀ check ∈ field.checks, check.toList.head? = some 'I' := by
  obtain ⟨name, type, -, rfl⟩ := typed
  have scalars : ∀ scalar ∈ ScalarType.openObject :: ScalarType.table.map Prod.snd,
      scalar.check.toList.head? = some 'I' := by decide
  have typeCheck : (Field.typeCheck enumNames type).toList.head? = some 'I' := by
    unfold Field.typeCheck
    split
    · simp
    · rw [String.toList_append, List.head?_append, scalars _ (ScalarType.ofToken_mem _)]
      rfl
  intro check member
  rw [Field.checks_ofType] at member
  simp only [List.mem_append, List.mem_singleton] at member
  rcases member with (optional | rfl) | array
  · split at optional
    · rw [List.mem_singleton.mp optional]
      rfl
    · cases optional
  · exact typeCheck
  · split at array
    · rw [List.mem_singleton.mp array]
      rfl
    · cases array

theorem prefix_exposure : "Api".toList <+: field.exposure.toList := by
  obtain ⟨name, type, -, rfl⟩ := typed
  exact prefix_exposureFor _ _ _

theorem head?_name : ∃ c, field.name.toList.head? = some c ∧ c ≠ ' ' ∧ c ≠ '@' := by
  obtain ⟨name, type, identifier, rfl⟩ := typed
  obtain ⟨first, others, split⟩ : ∃ first others, name.toList = first :: others := by
    apply List.exists_cons_of_ne_nil
    rw [Ne, String.toList_eq_nil_iff]
    exact Naming.ne_empty_of_isPlainIdentifier identifier
  have starts : Naming.continuesIdentifier first = true :=
    Naming.continues_of_isPlainIdentifier identifier first (by simp [split])
  refine ⟨first, by simp [Field.ofType, split], ?_, ?_⟩
  · rintro rfl
    exact absurd starts (by decide)
  · rintro rfl
    exact absurd starts (by decide)

theorem undocuments_propertyLines (parts : field.NestedParts) (checked : Bool) :
    Undocuments width (field.propertyLines checked true) (field.propertyLines checked false) := by
  have checks : Undocuments width (if checked then field.checks.map decoratorLine else [])
      (if checked then field.checks.map decoratorLine else []) := by
    apply undocuments_kept
    intro line member
    split at member
    · obtain ⟨check, checkMember, rfl⟩ := List.mem_map.mp member
      obtain ⟨rest, written⟩ := List.head?_eq_some_iff.mp (head?_of_mem_checks typed check checkMember)
      rw [decoratorLine, String.toList_append, written]
      rfl
    · cases member
  have exposure : Undocuments width [decoratorLine field.exposure] [] := by
    obtain ⟨rest, written⟩ := prefix_exposure typed
    apply undocuments_line
    · rw [decoratorLine, String.toList_append, ← written]
      rfl
    · have sign : Text.brackets "@" = [] := rfl
      rw [decoratorLine, Text.brackets_append, sign]
      exact parts.exposure
  have signature : Undocuments width [⟨1, field.name ++ field.optionalMark ++ ": " ++ field.tsType ++ ";"⟩]
      [⟨1, field.name ++ field.optionalMark ++ ": " ++ field.tsType ++ ";"⟩] := by
    obtain ⟨c, first, proper⟩ := head?_name typed
    apply undocuments_kept
    rw [List.forall_mem_singleton]
    exact not_startsDocumentation (c := c) (by simp [first]) proper
  exact (checks.append exposure).append signature

end

theorem undocuments_classBody {enumNames : List String} {fields : List Field}
    (typed : ∀ field ∈ fields, field.Typed enumNames) (parts : ∀ field ∈ fields, field.NestedParts)
    (checked : Bool) :
    Undocuments width (classBody fields checked true) (classBody fields checked false) := by
  induction fields with
  | nil => exact undocuments_nil
  | cons field fields ih =>
    obtain ⟨isTyped, othersTyped⟩ := List.forall_mem_cons.mp typed
    obtain ⟨nested, othersNested⟩ := List.forall_mem_cons.mp parts
    have first : Undocuments width (field.propertyLines checked true) (field.propertyLines checked false) :=
      undocuments_propertyLines isTyped nested checked
    cases fields with
    | nil => rwa [classBody_singleton, classBody_singleton]
    | cons second fields =>
      have blank : Undocuments width [.blank] [.blank] := undocuments_kept (by decide)
      rw [classBody_cons_cons, classBody_cons_cons]
      exact first.append (blank.append (ih othersTyped othersNested))

theorem undocuments_classLines {enumNames : List String} {fields : List Field}
    (typed : ∀ field ∈ fields, field.Typed enumNames) (parts : ∀ field ∈ fields, field.NestedParts)
    (name : String) (checked : Bool) :
    Undocuments width (classLines name fields checked true) (classLines name fields checked false) := by
  have opening : Undocuments width [⟨0, "export class " ++ name ++ " \x7b"⟩]
      [⟨0, "export class " ++ name ++ " \x7b"⟩] := by
    apply undocuments_kept
    rw [List.forall_mem_singleton]
    exact not_startsDocumentation (c := 'e') (by simp) (by decide)
  have closing : Undocuments width [⟨0, "\x7d"⟩] [⟨0, "\x7d"⟩] := undocuments_kept (by decide)
  exact (opening.append (undocuments_classBody typed parts checked)).append closing

end

/-- The settings with documentation switched on or off. -/
def Settings.withSwagger (settings : Settings) (enabled : Bool) : Settings :=
  { settings with enableSwagger := enabled }

section
variable {settings : Settings} (apart : isDocumentationSource settings.enumImport = false)
include apart

theorem plain_propertyImports (fields : List Field) (checked : Bool) :
    (propertyImports (settings.withSwagger true) fields checked).plain =
      propertyImports (settings.withSwagger false) fields checked := by
  have packaged : isDocumentationSource swaggerModule = true ∧
      isDocumentationSource validatorModule = false := by decide
  cases checked <;>
    simp [propertyImports, Settings.withSwagger, Imports.plain, packaged, apart]

theorem undocumented_propertyClass (enums : Lacks '\n' settings.enumImport) {name : String}
    (unbroken : Lacks '\n' name) {enumNames : List String} {fields : List Field}
    (writable : ∀ field ∈ fields, field.Writable) (typed : ∀ field ∈ fields, field.Typed enumNames)
    (parts : ∀ field ∈ fields, field.NestedParts) (checked : Bool) {width : Nat} (wide : 0 < width) :
    undocumented (lines (renderAll width
        (propertyClass (settings.withSwagger true) name fields checked)).toList) =
      lines (renderAll width (propertyClass (settings.withSwagger false) name fields checked)).toList := by
  have readable : (Imports.ofList
      (propertyImports (settings.withSwagger true) fields checked)).ReadablyDocumented := by
    intro entry member documentation
    obtain ⟨quotable, words⟩ := forall_propertyImports
      (P := fun source => isDocumentationSource source = true → Quotable source) writable checked
      (by decide) (fun documented => by rw [Settings.withSwagger, apart] at documented; cases documented)
      entry (Imports.mem_of_mem_ofList member)
    exact ⟨quotable documentation, words⟩
  have enumsUnbroken : Lacks '\n' (settings.withSwagger true).enumImport := enums
  have importsUnbroken : (Imports.ofList
      (propertyImports (settings.withSwagger true) fields checked)).Unbroken :=
    fun entry member => unbroken_propertyImports writable checked enumsUnbroken entry
      (Imports.mem_of_mem_ofList member)
  have imports : Imports.ofList (propertyImports (settings.withSwagger false) fields checked) =
      (Imports.ofList (propertyImports (settings.withSwagger true) fields checked)).plain := by
    rw [Imports.plain_ofList, plain_propertyImports apart]
  have opening : (CodeLine.mk 0 ("export class " ++ name ++ " \x7b")).text ≠ "" := by simp
  rw [propertyClass, propertyClass, imports]
  exact undocumented_renderAll opening readable importsUnbroken (isBody_classLines unbroken writable _ _)
    (classLines_ne_nil _ _ _ _) (isBody_classLines unbroken writable checked false) wide
    (undocuments_classLines typed parts name checked)

end

/-! ### Controllers -/

theorem undocuments_endpointLines {endpoint : Endpoint} {width : Nat}
    (route : ∃ c, endpoint.route.toList.head? = some c ∧ c ≠ 'A')
    (signature : ∃ c, endpoint.signature.toList.head? = some c ∧ c ≠ ' ' ∧ c ≠ '@')
    (documentation : Undocuments width (endpoint.documentation.map (inside 1)) []) :
    Undocuments width (endpoint.lines true) (endpoint.lines false) := by
  have opening : Undocuments width [.blank, ⟨1, "@" ++ endpoint.route⟩] [.blank, ⟨1, "@" ++ endpoint.route⟩] := by
    obtain ⟨c, first, proper⟩ := route
    obtain ⟨rest, written⟩ := List.head?_eq_some_iff.mp first
    apply undocuments_kept
    rw [List.forall_mem_cons, List.forall_mem_singleton]
    refine ⟨by decide, ?_⟩
    rw [String.toList_append, written, ← Bool.not_eq_true, startsDocumentation, List.isPrefixOf_iff_prefix]
    rintro ⟨_, same⟩
    cases same
    exact proper rfl
  have method : Undocuments width
      [⟨1, endpoint.signature ++ " \x7b"⟩, ⟨2, "return " ++ endpoint.call ++ ";"⟩, ⟨1, "\x7d"⟩]
      [⟨1, endpoint.signature ++ " \x7b"⟩, ⟨2, "return " ++ endpoint.call ++ ";"⟩, ⟨1, "\x7d"⟩] := by
    obtain ⟨c, first, proper⟩ := signature
    apply undocuments_kept
    simp only [List.forall_mem_cons, List.not_mem_nil, false_imp_iff, implies_true, and_true]
    exact ⟨not_startsDocumentation (c := c) (by simp [first]) proper,
      not_startsDocumentation (c := 'r') (by simp) (by decide), by decide⟩
  rw [Endpoint.lines, Endpoint.lines, if_pos rfl, if_neg Bool.false_ne_true]
  exact (opening.append documentation).append method

namespace Model

section
variable {model : Model} (writable : model.Writable) {width : Nat}
include writable

theorem brackets_entityName : Text.brackets model.entityName = [] := by
  simp only [entityName, Text.brackets_append, brackets_name writable]
  rfl

theorem undocuments_entityDocumentation {decorator : String}
    (named : decorator ∈ ["ApiCreatedResponse", "ApiOkResponse"]) :
    Undocuments width ((entityDocumentation decorator model.entityName).map (inside 1)) [] := by
  have name := brackets_entityName writable
  rw [entityDocumentation, List.map_singleton]
  apply undocuments_line
  · simp only [List.mem_cons, List.not_mem_nil, or_false] at named
    rcases named with rfl | rfl <;>
      simp only [inside, String.toList_append] <;> rfl
  · simp only [inside, Text.brackets_append, name]
    revert named decorator
    decide

theorem undocuments_pageDocumentation :
    Undocuments width ((pageDocumentation model.entityName).map (inside 1)) [] := by
  have name := brackets_entityName writable
  simp only [pageDocumentation, List.map_cons, List.map_nil, List.cons_append,
    List.nil_append]
  apply undocuments_decorator
  · decide
  · simp only [inside, closesWith, Text.brackets_append, name]
    decide

theorem undocuments_endpoints :
    Undocuments width (model.endpoints.flatMap (Endpoint.lines true))
      (model.endpoints.flatMap (Endpoint.lines false)) := by
  apply undocuments_flatMap
  intro endpoint member
  simp only [endpoints, List.mem_cons, List.not_mem_nil, or_false] at member
  rcases member with rfl | rfl | rfl | rfl | rfl
  · exact undocuments_endpointLines ⟨'P', by simp, by decide⟩ ⟨'c', by simp, by decide⟩
      (undocuments_entityDocumentation writable (by decide))
  · exact undocuments_endpointLines ⟨'G', by simp, by decide⟩ ⟨'f', by simp, by decide⟩
      (undocuments_pageDocumentation writable)
  · exact undocuments_endpointLines ⟨'G', by simp, by decide⟩ ⟨'f', by simp, by decide⟩
      (undocuments_entityDocumentation writable (by decide))
  · exact undocuments_endpointLines ⟨'P', by simp, by decide⟩ ⟨'u', by simp, by decide⟩
      (undocuments_entityDocumentation writable (by decide))
  · exact undocuments_endpointLines ⟨'D', by simp, by decide⟩ ⟨'r', by simp, by decide⟩
      (undocuments_entityDocumentation writable (by decide))

theorem undocuments_controllerDecorators (settings : Settings) :
    Undocuments width (model.controllerDecorators (settings.withSwagger true))
      (model.controllerDecorators (settings.withSwagger false)) := by
  have name := brackets_entityName writable
  have tags : Undocuments width [⟨0, "@ApiTags('" ++ model.route ++ "')"⟩] [] := by
    apply undocuments_line
    · simp only [String.toList_append]
      rfl
    · simp only [Text.brackets_append, brackets_route]
      decide
  have models : Undocuments width [⟨0, "@ApiExtraModels(" ++ model.entityName ++ ")"⟩] [] := by
    apply undocuments_line
    · simp only [String.toList_append]
      rfl
    · simp only [Text.brackets_append, name]
      decide
  have bearer : Undocuments width [⟨0, "@ApiBearerAuth()"⟩] [] :=
    undocuments_line (by decide) (by decide)
  have guard : Undocuments width [⟨0, "@UseGuards(" ++ settings.guardName ++ ")"⟩]
      [⟨0, "@UseGuards(" ++ settings.guardName ++ ")"⟩] := by
    apply undocuments_kept
    rw [List.forall_mem_singleton]
    simp only [String.toList_append]
    rfl
  have controller : Undocuments width [⟨0, "@Controller('" ++ model.route ++ "')"⟩]
      [⟨0, "@Controller('" ++ model.route ++ "')"⟩] := by
    apply undocuments_kept
    rw [List.forall_mem_singleton]
    simp only [String.toList_append]
    rfl
  have shown := tags.append models
  cases guarded : settings.enableGuards with
  | false =>
    simpa [controllerDecorators, Settings.withSwagger, guarded] using shown.append controller
  | true =>
    simpa [controllerDecorators, Settings.withSwagger, guarded] using
      ((shown.append bearer).append guard).append controller

theorem undocuments_controllerCode (settings : Settings) :
    Undocuments width (model.controllerCode (settings.withSwagger true))
      (model.controllerCode (settings.withSwagger false)) := by
  have opening : Undocuments width [⟨0, "export class " ++ model.controllerName ++ " \x7b"⟩,
      ⟨1, "constructor(private readonly " ++ model.serviceMember ++ ": " ++ model.serviceName
        ++ ") \x7b\x7d"⟩] [⟨0, "export class " ++ model.controllerName ++ " \x7b"⟩,
      ⟨1, "constructor(private readonly " ++ model.serviceMember ++ ": " ++ model.serviceName
        ++ ") \x7b\x7d"⟩] := by
    apply undocuments_kept
    simp only [List.forall_mem_cons, List.not_mem_nil, false_imp_iff, implies_true, and_true]
    exact ⟨not_startsDocumentation (c := 'e') (by simp) (by decide),
      not_startsDocumentation (c := 'c') (by simp) (by decide)⟩
  have closing : Undocuments width [⟨0, "\x7d"⟩] [⟨0, "\x7d"⟩] := undocuments_kept (by decide)
  unfold controllerCode
  exact (((undocuments_controllerDecorators writable settings).append opening).append
    (undocuments_endpoints writable)).append closing

end

end Model

/-- Settings whose names and paths stand on one line, and whose paths are neither the documentation
package nor lead into the folder of a model. -/
structure Settings.Apart (settings : Settings) : Prop where
  guardName : Lacks '\n' settings.guardName
  paths : ∀ path ∈ settings.importPaths, Lacks '\n' path
  packaged : ∀ path ∈ settings.importPaths, path ≠ swaggerModule
  outside : ∀ path ∈ settings.importPaths, ¬ "./".toList <+: path.toList

theorem Settings.Apart.isDocumentationSource_eq_false {settings : Settings} (apart : settings.Apart)
    {path : String} (member : path ∈ settings.importPaths) : isDocumentationSource path = false := by
  have below : "./".toList <+: "./entities/".toList := by decide
  rw [← Bool.not_eq_true, isDocumentationSource_iff, not_or]
  exact ⟨apart.packaged path member, fun inside => apart.outside path member (below.trans inside)⟩

theorem Settings.Apart.unbroken {settings : Settings} (apart : settings.Apart) : settings.Unbroken :=
  ⟨apart.guardName, apart.paths⟩

theorem Settings.Apart.withSwagger {settings : Settings} (apart : settings.Apart) (enabled : Bool) :
    (settings.withSwagger enabled).Apart :=
  ⟨apart.guardName, apart.paths, apart.packaged, apart.outside⟩

namespace Model

section
variable {settings : Settings} (apart : settings.Apart) {model : Model} (writable : model.Writable)
include apart writable

omit apart in
theorem isDocumentationSource_service :
    isDocumentationSource ("./" ++ (model.folderName ++ ".service")) = false := by
  have flat : Lacks '/' model.folderName := writable.isLabel_folderName.lacks (by decide)
  rw [← Bool.not_eq_true, isDocumentationSource_iff, not_or]
  constructor
  · intro same
    have first := congrArg (fun text => text.toList.head?) same
    simp [swaggerModule] at first
  · -- The folder holds no slash, but the folder of the entities is followed by one.
    rintro ⟨rest, same⟩
    have counts := congrArg (List.count '/') same
    simp [List.count_eq_zero.mpr flat] at counts

/-- Which modules of a controller are for documentation. -/
structure SourcesTold (settings : Settings) (model : Model) : Prop where
  common : isDocumentationSource commonModule = false
  swagger : isDocumentationSource swaggerModule = true
  guard : isDocumentationSource settings.guardImport = false
  service : isDocumentationSource ("./" ++ (model.folderName ++ ".service")) = false
  createDto : isDocumentationSource ("./dto/create-" ++ (model.folderName ++ ".dto")) = false
  updateDto : isDocumentationSource ("./dto/update-" ++ (model.folderName ++ ".dto")) = false
  searchDto : isDocumentationSource ("./dto/search-" ++ (model.folderName ++ ".dto")) = false
  entity : isDocumentationSource ("./entities/" ++ (model.folderName ++ ".entity")) = true

theorem sourcesTold : SourcesTold settings model where
  common := by decide
  swagger := by decide
  guard := apart.isDocumentationSource_eq_false (by simp [Settings.importPaths])
  service := isDocumentationSource_service writable
  createDto := isDocumentationSource_append (by decide) (by decide) _
  updateDto := isDocumentationSource_append (by decide) (by decide) _
  searchDto := isDocumentationSource_append (by decide) (by decide) _
  entity := by
    rw [isDocumentationSource_iff, String.toList_append]
    exact .inr (List.prefix_append _ _)

theorem plain_controllerImports :
    (model.controllerImports (settings.withSwagger true)).plain =
      model.controllerImports (settings.withSwagger false) := by
  have told := sourcesTold apart writable
  rw [controllerImports, controllerImports, Imports.plain_ofList]
  congr 1
  cases guarded : settings.enableGuards <;>
    simp [Imports.plain, Settings.withSwagger, guarded, String.append_assoc, told.common, told.swagger,
      told.guard, told.service, told.createDto, told.updateDto, told.searchDto, told.entity]

theorem readablyDocumented_controllerImports :
    (model.controllerImports (settings.withSwagger true)).ReadablyDocumented := by
  have told := sourcesTold apart writable
  have words : ∀ guarded, ∀ name ∈ swaggerNames guarded, IsWord name := by decide +kernel
  have package : Quotable swaggerModule := by decide
  have entityName : IsWord model.entityName := ArtifactKind.entity.isWord_className writable.name
  have entity : Quotable ("./entities/" ++ model.folderName ++ ".entity") := by
    have quote : Lacks '\'' model.folderName := writable.isLabel_folderName.lacks (by decide)
    have feed : Lacks '\n' model.folderName := writable.isLabel_folderName.lacks (by decide)
    simp +decide [quotable_iff, quote, feed]
  intro entry member documentation
  have given := Imports.mem_of_mem_ofList member
  have documented : entry = (swaggerModule, swaggerNames settings.enableGuards) ∨
      entry = ("./entities/" ++ model.folderName ++ ".entity", [model.entityName]) := by
    have filtered := List.mem_filter (p := fun entry => isDocumentationSource entry.1) |>.mpr
      ⟨given, documentation⟩
    cases guarded : settings.enableGuards <;>
      simpa [Settings.withSwagger, guarded, String.append_assoc, told.common, told.swagger, told.guard,
        told.service, told.createDto, told.updateDto, told.searchDto, told.entity] using filtered
  rcases documented with rfl | rfl
  · exact ⟨package, words _⟩
  · exact ⟨entity, List.forall_mem_singleton.mpr entityName⟩

theorem unbroken_controllerImports :
    (model.controllerImports settings).Unbroken := by
  rw [controllerImports_eq]
  intro entry member
  exact ArtifactKind.all_imports (ArtifactKind.imported_unbroken writable apart.unbroken) _ entry (Imports.mem_of_mem_ofList member)

omit apart writable in
theorem exists_first_controllerCode (settings : Settings) (model : Model) : ∃ first others,
    model.controllerCode settings = first :: others ∧ first.text ≠ "" := by
  have written : ∀ line ∈ model.controllerDecorators settings, line.text ≠ "" := by
    unfold controllerDecorators
    cases settings.enableSwagger <;> cases settings.enableGuards <;> simp
  obtain ⟨first, others, split⟩ : ∃ first others, model.controllerDecorators settings = first :: others :=
    List.exists_cons_of_ne_nil (by simp [controllerDecorators])
  rw [controllerCode, split]
  exact ⟨first, _, rfl, written first (by simp [split])⟩

theorem undocumented_controllerLines {width : Nat} (wide : 0 < width) :
    undocumented (lines (renderAll width (model.controllerLines (settings.withSwagger true))).toList) =
      lines (renderAll width (model.controllerLines (settings.withSwagger false))).toList := by
  have unbroken := unbroken_controllerImports (apart.withSwagger true) writable
  have isBody := isBody_controllerCode writable (apart.withSwagger true).guardName
  have isPlainBody := isBody_controllerCode writable (apart.withSwagger false).guardName
  have undocuments : Undocuments width _ _ := undocuments_controllerCode writable settings
  obtain ⟨first, others, split, written⟩ := exists_first_controllerCode (settings.withSwagger false) model
  rw [split] at isPlainBody undocuments
  rw [controllerLines_eq, controllerLines_eq, split, ← plain_controllerImports apart writable]
  exact undocumented_renderAll written (readablyDocumented_controllerImports apart writable) unbroken
    isBody (by simp [controllerCode]) isPlainBody wide undocuments

end

end Model

/-! ### The base query -/

theorem undocuments_pagingKeyLines {width : Nat} (key : String) (default : Nat)
    (signature : ∃ c, key.toList.head? = some c ∧ c ≠ ' ' ∧ c ≠ '@') :
    Undocuments width (pagingKeyLines true key default) (pagingKeyLines false key default) := by
  have checks : Undocuments width
      [⟨1, "@IsOptional()"⟩, ⟨1, "@Type(() => Number)"⟩, ⟨1, "@IsInt()"⟩, ⟨1, "@Min(1)"⟩]
      [⟨1, "@IsOptional()"⟩, ⟨1, "@Type(() => Number)"⟩, ⟨1, "@IsInt()"⟩, ⟨1, "@Min(1)"⟩] :=
    undocuments_kept (by decide)
  have exposure : Undocuments width
      [⟨1, "@ApiPropertyOptional(\x7b default: " ++ toString default ++ " \x7d)"⟩] [] := by
    have number : Text.brackets (toString default) = [] := brackets_repr default
    apply undocuments_line
    · simp only [String.toList_append]
      rfl
    · simp only [Text.brackets_append, number]
      decide
  have property : Undocuments width [⟨1, key ++ "?: number = " ++ toString default ++ ";"⟩]
      [⟨1, key ++ "?: number = " ++ toString default ++ ";"⟩] := by
    obtain ⟨c, first, proper⟩ := signature
    apply undocuments_kept
    rw [List.forall_mem_singleton]
    exact not_startsDocumentation (c := c) (by simp [first]) proper
  exact (checks.append exposure).append property

theorem undocumented_baseQueryLines (settings : Settings) {width : Nat} (wide : 0 < width) :
    undocumented (lines (renderAll width (baseQueryLines (settings.withSwagger true))).toList) =
      lines (renderAll width (baseQueryLines (settings.withSwagger false))).toList := by
  have readable : (baseQueryImports (settings.withSwagger true)).ReadablyDocumented := by
    have all : ∀ entry ∈ baseQueryImports { enableSwagger := true },
        Quotable entry.1 ∧ ∀ name ∈ entry.2, IsWord name := by decide +kernel
    exact fun entry member _ => all entry member
  have unbroken : (baseQueryImports (settings.withSwagger true)).Unbroken :=
    all_baseQueryImports (by decide) (by decide) _
  have plain : (baseQueryImports (settings.withSwagger true)).plain =
      baseQueryImports (settings.withSwagger false) := by
    have closed : (baseQueryImports { enableSwagger := true }).plain =
        baseQueryImports { enableSwagger := false } := by decide
    exact closed
  have opening : Undocuments width [⟨0, "export class BaseQueryDto \x7b"⟩]
      [⟨0, "export class BaseQueryDto \x7b"⟩] := undocuments_kept (by decide)
  have between : Undocuments width [.blank] [.blank] := undocuments_kept (by decide)
  have closing : Undocuments width [⟨0, "\x7d"⟩] [⟨0, "\x7d"⟩] := undocuments_kept (by decide)
  have page : Undocuments width (pagingKeyLines true "page" 1) (pagingKeyLines false "page" 1) :=
    undocuments_pagingKeyLines "page" 1 ⟨'p', by decide, by decide⟩
  have limit : Undocuments width (pagingKeyLines true "limit" settings.defaultPageSize)
      (pagingKeyLines false "limit" settings.defaultPageSize) :=
    undocuments_pagingKeyLines "limit" _ ⟨'l', by decide, by decide⟩
  have undocuments : Undocuments width (baseQueryCode (settings.withSwagger true))
      (baseQueryCode (settings.withSwagger false)) :=
    (((opening.append page).append between).append limit).append closing
  have written : (CodeLine.mk 0 "export class BaseQueryDto \x7b").text ≠ "" := by decide
  rw [baseQueryLines_eq, baseQueryLines_eq, ← plain]
  exact undocumented_renderAll written readable unbroken (isBody_baseQueryCode _)
    (by simp [baseQueryCode]) (isBody_baseQueryCode (settings.withSwagger false)) wide undocuments

/-! ### All artifacts -/

namespace CodeWriter

/-- A writer that has documentation switched on or off. -/
def withSwagger (writer : CodeWriter) (enabled : Bool) : CodeWriter :=
  { writer with settings := writer.settings.withSwagger enabled }

theorem lines_updateDto (writer : CodeWriter) (model : Model) : ∃ others, ∀ enabled,
    lines ((writer.withSwagger enabled).artifact .updateDto model).toList =
      (importLine ["PartialType"] (if enabled then swaggerModule else mappedTypesModule)).toList :: others := by
  refine ⟨lines (renderAll writer.width
    [⟨0, Imports.line [model.createDtoName] ("./create-" ++ model.folderName ++ ".dto")⟩, .blank,
      ⟨0, "export class " ++ model.updateDtoName ++ " extends PartialType(" ++ model.createDtoName
        ++ ") \x7b\x7d"⟩]).toList, fun enabled => ?_⟩
  have unbroken : Lacks '\n' (CodeLine.mk 0 (importLine ["PartialType"]
      (if enabled then swaggerModule else mappedTypesModule))).text := by
    cases enabled <;> decide
  have split := lines_renderAll_cons unbroken writer.width
    ⟨0, Imports.line [model.createDtoName] ("./create-" ++ model.folderName ++ ".dto")⟩ [.blank,
      ⟨0, "export class " ++ model.updateDtoName ++ " extends PartialType(" ++ model.createDtoName
        ++ ") \x7b\x7d"⟩]
  rwa [CodeLine.render_zero] at split

section
variable {text : String} {source : Option String} {model : Model}
  (member : model ∈ (Schema.ofText text source).models) {writer : CodeWriter}
include member

theorem undocumented_createDto (apart : writer.settings.Apart) (wide : 0 < writer.width) :
    undocumented (lines ((writer.withSwagger true).artifact .createDto model).toList) =
      lines ((writer.withSwagger false).artifact .createDto model).toList := by
  have writable := Schema.writable_of_mem_models member
  have inModel : ∀ field ∈ model.dtoFields writer.settings.excludedFields, field ∈ model.fields :=
    fun field inside => (List.mem_filter.mp inside).1
  have enums : writer.settings.enumImport ∈ writer.settings.importPaths := by simp [Settings.importPaths]
  rw [artifact, artifact, ArtifactKind.lines, ArtifactKind.lines, createDtoLines_eq_propertyClass,
    createDtoLines_eq_propertyClass]
  exact undocumented_propertyClass (apart.isDocumentationSource_eq_false enums) (apart.paths _ enums)
    (ArtifactKind.lacks_className (writable.name.lacks (by decide)) (by decide) .createDto)
    (Model.writable_of_mem_dtoFields writable _)
    (fun field inside => Schema.typed_of_mem_models member field (inModel field inside))
    (fun field inside => Schema.nestedParts_of_mem_models member field (inModel field inside)) true wide

theorem undocumented_entity (apart : writer.settings.Apart) (wide : 0 < writer.width) :
    undocumented (lines ((writer.withSwagger true).artifact .entity model).toList) =
      lines ((writer.withSwagger false).artifact .entity model).toList := by
  have writable := Schema.writable_of_mem_models member
  have enums : writer.settings.enumImport ∈ writer.settings.importPaths := by simp [Settings.importPaths]
  rw [artifact, artifact, ArtifactKind.lines, ArtifactKind.lines, entityLines_eq_propertyClass,
    entityLines_eq_propertyClass]
  exact undocumented_propertyClass (apart.isDocumentationSource_eq_false enums) (apart.paths _ enums)
    (ArtifactKind.lacks_className (writable.name.lacks (by decide)) (by decide) .entity) writable.fields
    (Schema.typed_of_mem_models member) (Schema.nestedParts_of_mem_models member) false wide

/-- Switching documentation off leaves out of the requests to create, the entities, the controllers and
the base query what is for documentation; the services, the search requests and the module files stay
as they are, and the request to update takes its base from another package. -/
theorem artifacts_undocumented (apart : writer.settings.Apart) (wide : 0 < writer.width) :
    (∀ kind ∈ [ArtifactKind.createDto, .entity, .controller],
        lines ((writer.withSwagger false).artifact kind model).toList =
          undocumented (lines ((writer.withSwagger true).artifact kind model).toList)) ∧
      lines (writer.withSwagger false).baseQuery.toList =
        undocumented (lines (writer.withSwagger true).baseQuery.toList) ∧
      (∀ kind ∈ [ArtifactKind.service, .searchDto, .wiring],
        (writer.withSwagger false).artifact kind model = (writer.withSwagger true).artifact kind model) ∧
      ∃ others,
        lines ((writer.withSwagger true).artifact .updateDto model).toList =
          (importLine ["PartialType"] swaggerModule).toList :: others ∧
        lines ((writer.withSwagger false).artifact .updateDto model).toList =
          (importLine ["PartialType"] mappedTypesModule).toList :: others := by
  have writable := Schema.writable_of_mem_models member
  refine ⟨?_, (undocumented_baseQueryLines writer.settings wide).symm, ?_, ?_⟩
  · intro kind listed
    simp only [List.mem_cons, List.not_mem_nil, or_false] at listed
    rcases listed with rfl | rfl | rfl
    · exact (undocumented_createDto member apart wide).symm
    · exact (undocumented_entity member apart wide).symm
    · exact (Model.undocumented_controllerLines apart writable wide).symm
  · intro kind listed
    simp only [List.mem_cons, List.not_mem_nil, or_false] at listed
    rcases listed with rfl | rfl | rfl <;> rfl
  · obtain ⟨others, starts⟩ := lines_updateDto writer model
    exact ⟨others, starts true, starts false⟩

end

/-- With the settings as they are by default, a controller loses its documentation, two of its imports
among it, and the request to update another first line. -/
theorem artifacts_undocumented_default :
    let schema := Schema.ofText "enum Role \x7b\n A\n\x7d\nmodel User \x7b\n id Int\n role Role?\n\x7d" none
    let writer := ofSettings {}
    writer.settings.Apart ∧ ∃ model ∈ schema.models,
      lines ((writer.withSwagger false).artifact .controller model).toList =
          undocumented (lines ((writer.withSwagger true).artifact .controller model).toList) ∧
        (lines ((writer.withSwagger true).artifact .updateDto model).toList).head? =
          some "import \x7b PartialType \x7d from '@nestjs/swagger';".toList := by
  intro schema writer
  have apart : writer.settings.Apart := ⟨by decide, by decide, by decide, by decide⟩
  obtain ⟨model, member⟩ : ∃ model, model ∈ schema.models := by
    apply List.exists_mem_of_ne_nil
    decide +kernel
  obtain ⟨documented, -, -, others, starts, -⟩ := artifacts_undocumented member apart (by decide)
  refine ⟨apart, model, member, documented .controller (by decide), ?_⟩
  have first : (importLine ["PartialType"] swaggerModule).toList =
      "import \x7b PartialType \x7d from '@nestjs/swagger';".toList := by decide
  rw [starts, first]
  rfl

end CodeWriter

end PrismaNest
