import PrismaNest.Proofs.Artifact.Endpoints

/-! Controllers and services that fit together.

What a controller calls is what its service declares: methods of the one member that it is constructed
with, each declared once, with arguments that are parameters of the endpoint and have the types that the
service asks for. The identifier of a row is a number in both, or a text in both.
-/

set_option autoImplicit false

namespace PrismaNest

open Text

/-- An argument of a call in a method is its only parameter of that name, and has the type that is
asked for. -/
def Heading.Provides (heading : Heading) (argument : String) (asked : Parameter) : Prop :=
  ∃ own, heading.parameters.filter (·.name = argument) = [own] ∧ own.type = asked.type

/-- The parameters for the identifier of a row. -/
def idParametersIn (text : String) : List Parameter :=
  (Method.allIn text).flatMap fun method => method.heading.parameters.filter (·.name = "id")

/-- The first field for the identifier of a row has the type of whole numbers. -/
def Model.IdentifiedByNumber (model : Model) : Prop :=
  (model.fields.find? (·.name = "id")).map Field.baseType = some "Int"

instance (model : Model) : Decidable model.IdentifiedByNumber :=
  inferInstanceAs (Decidable (_ = _))

/-- The texts of a controller and of a service fit together. -/
structure FitTogether (model : Model) (controller service : String) : Prop where
  five : (Call.allIn controller).length = 5
  enclosed : Call.allIn controller = (Method.allIn controller).flatMap Method.calls
  /-- All calls use the member that the constructor declares with the class of the service. -/
  constructed : ∃ taken, classNameIn? service = some taken.type ∧
    ((Method.allIn controller).filter (·.heading.name = "constructor")).map (·.heading.parameters) = [[taken]] ∧
    ∀ call ∈ Call.allIn controller, call.member = taken.name
  /-- The service declares each called method once, with a parameter for each argument. -/
  declared : ∀ method ∈ Method.allIn controller, ∀ call ∈ method.calls, ∃ target,
    (Method.allIn service).filter (·.heading.name = call.method) = [target] ∧
      List.Forall₂ method.heading.Provides call.arguments target.heading.parameters
  identified : ∀ text ∈ [controller, service], (idParametersIn text).length = 3 ∧
    ∀ parameter ∈ idParametersIn text,
      parameter.type = if model.IdentifiedByNumber then "number" else "string"
  bound : ∀ parameter ∈ idParametersIn controller, parameter.binding =
    if model.IdentifiedByNumber then "@Param('id', ParseIntPipe) " else "@Param('id') "

namespace Model

variable {model : Model}

theorem hasNumericId_eq_true_iff : model.hasNumericId = true ↔ model.IdentifiedByNumber := by
  rw [hasNumericId, IdentifiedByNumber, idField?, field?]
  cases model.fields.find? (·.name = "id") <;> simp

theorem idType_eq : model.idType = if model.IdentifiedByNumber then "number" else "string" := by
  rw [idType]
  exact if_congr hasNumericId_eq_true_iff rfl rfl

theorem boundId_binding : model.boundId.binding =
    if model.IdentifiedByNumber then "@Param('id', ParseIntPipe) " else "@Param('id') " := by
  rw [boundId]
  exact if_congr hasNumericId_eq_true_iff rfl rfl

theorem identified_of_replicate {text : String} {parameter : Parameter}
    (ids : idParametersIn text = List.replicate 3 parameter) (typed : parameter.type = model.idType) :
    (idParametersIn text).length = 3 ∧ ∀ parameter ∈ idParametersIn text,
      parameter.type = if model.IdentifiedByNumber then "number" else "string" := by
  rw [ids]
  refine ⟨rfl, fun other listed => ?_⟩
  rw [List.eq_of_mem_replicate listed, typed, idType_eq]

-- A name with one of the fixed parts is longer than that of the identifier.
theorem name_ne_id {front back : String} (long : "id".length < front.length ∨ "id".length < back.length) :
    front ++ back ≠ "id" := by
  intro same
  have lengths := congrArg String.length same
  rw [String.length_append] at lengths
  omega

theorem createArgument_ne : model.createArgument ≠ "id" :=
  name_ne_id (.inr (by decide))

theorem updateArgument_ne : model.updateArgument ≠ "id" :=
  name_ne_id (.inr (by decide))

theorem serviceMember_ne : model.serviceMember ≠ "id" :=
  name_ne_id (.inr (by decide))

theorem provides_only {name argument : String} {own asked : Parameter} (named : own.name = argument)
    (typed : own.type = asked.type) : Heading.Provides ⟨name, [own]⟩ argument asked :=
  ⟨own, by simp [named], typed⟩

/-- Every call of an endpoint finds one method of the service, and the endpoint provides what that
method asks for. -/
theorem exists_target : ∀ pair ∈ model.served, ∃ target,
    (serviceConstructor :: model.serviceHeadings).filter (·.name = pair.2.method) = [target] ∧
      List.Forall₂ pair.1.Provides pair.2.arguments target.parameters := by
  have idFound : [model.boundId, ⟨"@Body() ", model.updateArgument, model.updateDtoName⟩].filter
      (·.name = "id") = [model.boundId] := by
    simp [boundId, updateArgument_ne]
  have rowFound : [model.boundId, ⟨"@Body() ", model.updateArgument, model.updateDtoName⟩].filter
      (·.name = model.updateArgument) = [⟨"@Body() ", model.updateArgument, model.updateDtoName⟩] := by
    simp [boundId, updateArgument_ne.symm]
  intro pair member
  simp only [served, List.mem_cons, List.not_mem_nil, or_false] at member
  rcases member with rfl | rfl | rfl | rfl | rfl
  · exact ⟨_, rfl, .cons (provides_only rfl rfl) .nil⟩
  · exact ⟨_, rfl, .cons (provides_only rfl rfl) .nil⟩
  · exact ⟨_, rfl, .cons (provides_only rfl rfl) .nil⟩
  · exact ⟨_, rfl, .cons ⟨_, idFound, rfl⟩ (.cons ⟨_, rowFound, rfl⟩ .nil)⟩
  · exact ⟨_, rfl, .cons (provides_only rfl rfl) .nil⟩

end Model

namespace CodeWriter

section
variable {text : String} {source : Option String} {model : Model}
  (member : model ∈ (Schema.ofText text source).models) {writer : CodeWriter}
  (unbroken : writer.settings.Unbroken)
include member unbroken

theorem statementsOf_artifact (kind : ArtifactKind) :
    statementsOf (writer.artifact kind model) = textsOf (kind.lines writer.settings model) ++ [[]] :=
  statementsOf_renderAll (kind.lines_ne_nil _ _)
    (kind.lacks_break (Schema.writable_of_mem_models member) unbroken)
    (kind.flush_lines (Schema.typed_of_mem_models member)) _

theorem methodsIn_controller : Method.allIn (writer.artifact .controller model) =
    ⟨model.controllerConstructor, []⟩ :: model.served.map fun pair => .answering pair.1 pair.2 := by
  rw [Method.allIn, statementsOf_artifact member unbroken]
  exact Model.readAll_controller (Schema.writable_of_mem_models member).name _

theorem callsIn_controller :
    Call.allIn (writer.artifact .controller model) = model.served.map Prod.snd := by
  rw [Call.allIn, statementsOf_artifact member unbroken]
  exact Model.calls_controller (Schema.writable_of_mem_models member).name _

theorem headingsIn_service : (Method.allIn (writer.artifact .service model)).map Method.heading =
    Model.serviceConstructor :: model.serviceHeadings := by
  rw [Method.allIn, statementsOf_artifact member unbroken]
  exact Model.headings_service (Schema.writable_of_mem_models member).name _

theorem classNameIn?_service :
    classNameIn? (writer.artifact .service model) = some model.serviceName := by
  have isWord : IsWord model.serviceName :=
    ArtifactKind.isWord_className (Schema.writable_of_mem_models member).name .service
  have skipped : (textsOf (model.serviceImports writer.settings)).findSome? classNameOf? = none := by
    refine List.findSome?_eq_none_iff.mpr fun line inside => ?_
    obtain ⟨codeLine, codeMember, rfl⟩ := List.mem_map.mp inside
    obtain ⟨names, imported, rfl⟩ := Model.eq_importLine_of_mem_serviceImports codeMember
    exact classNameOf?_importLine names imported
  have plain : classNameOf? "".toList = none ∧ classNameOf? "@Injectable()".toList = none := by decide
  have found : (textsOf [.blank, ⟨0, "@Injectable()"⟩,
      ⟨0, "export class " ++ model.serviceName ++ " \x7b"⟩]).findSome? classNameOf? = some model.serviceName := by
    rw [textsOf, List.map_cons, List.map_cons, List.map_singleton, List.findSome?_cons, CodeLine.blank, plain.1,
      List.findSome?_cons, plain.2, List.findSome?_cons, classNameOf?_classLine isWord]
  rw [classNameIn?, statementsOf_artifact member unbroken, ArtifactKind.lines, Model.textsOf_serviceLines,
    List.findSome?_append, textsOf_append, List.findSome?_append, skipped, found]
  rfl

theorem idParametersIn_controller :
    idParametersIn (writer.artifact .controller model) = List.replicate 3 model.boundId := by
  rw [idParametersIn, methodsIn_controller member unbroken]
  simp [Model.served, Method.answering, Model.controllerConstructor, Model.boundId, Model.createArgument_ne,
    Model.updateArgument_ne, Model.serviceMember_ne, List.replicate]

theorem idParametersIn_service :
    idParametersIn (writer.artifact .service model) = List.replicate 3 model.servedId := by
  have headings := headingsIn_service member unbroken
  have parted : idParametersIn (writer.artifact .service model) =
      ((Method.allIn (writer.artifact .service model)).map Method.heading).flatMap
        fun heading => heading.parameters.filter (·.name = "id") := by
    rw [idParametersIn, List.flatMap_map]
  rw [parted, headings]
  simp [Model.serviceHeadings, Model.serviceConstructor, Model.servedId, Model.createArgument_ne,
    Model.updateArgument_ne, List.replicate]

-- The service declares each method that is called once.
theorem exists_declared {pair : Heading × Call} (served : pair ∈ model.served) : ∃ target,
    (Method.allIn (writer.artifact .service model)).filter (·.heading.name = pair.2.method) = [target] ∧
      List.Forall₂ pair.1.Provides pair.2.arguments target.heading.parameters := by
  obtain ⟨heading, found, provides⟩ := Model.exists_target pair served
  rw [← headingsIn_service member unbroken, List.filter_map] at found
  obtain ⟨target, only, rfl⟩ := List.map_eq_singleton_iff.mp found
  exact ⟨target, only, provides⟩

/-- What the controller of a model calls, its service declares. -/
theorem controller_fits_service :
    FitTogether model (writer.artifact .controller model) (writer.artifact .service model) := by
  have methods := methodsIn_controller member unbroken
  have calls := callsIn_controller member unbroken
  have answers := calls_served (Model.writtenFor_endpoints (Schema.writable_of_mem_models member).name)
  constructor
  case five =>
    rw [calls]
    rfl
  case enclosed =>
    rw [calls, methods, List.flatMap_cons, List.flatMap_map, List.flatMap_congr answers, List.map_eq_flatMap]
    rfl
  case constructed =>
    refine ⟨⟨"private readonly ", model.serviceMember, model.serviceName⟩,
      classNameIn?_service member unbroken, ?_, ?_⟩
    · rw [methods]
      rfl
    · rw [calls]
      simp [Model.served]
  case declared =>
    intro method inside call called
    rw [methods] at inside
    -- The constructor calls nothing, and an endpoint makes the one call that it is written for.
    rcases List.mem_cons.mp inside with rfl | inside
    · cases called
    · obtain ⟨pair, served, rfl⟩ := List.mem_map.mp inside
      rw [answers pair served, List.mem_singleton] at called
      rw [called]
      exact exists_declared member unbroken served
  case identified =>
    refine List.forall_mem_cons.mpr ⟨?_, List.forall_mem_singleton.mpr ?_⟩
    · exact Model.identified_of_replicate (idParametersIn_controller member unbroken) rfl
    · exact Model.identified_of_replicate (idParametersIn_service member unbroken) rfl
  case bound =>
    rw [idParametersIn_controller member unbroken]
    intro parameter listed
    rw [List.eq_of_mem_replicate listed, Model.boundId_binding]

end

/-- A name whose first letter gives two characters, identifiers of two types, and a guard that looks like
the end of a heading. -/
theorem controller_fits_service_guarded :
    let schema := Schema.ofText "model \u0130tem \x7b\n id Int[]\n id String\n\x7d" none
    let writer := ofSettings { guardName := "A) \x7b", enableGuards := true }
    writer.settings.Unbroken ∧ ∃ model ∈ schema.models, model.IdentifiedByNumber ∧
      FitTogether model (writer.artifact .controller model) (writer.artifact .service model) := by
  intro schema writer
  have unbroken : writer.settings.Unbroken := ⟨by decide, by decide⟩
  obtain ⟨model, member, numbered⟩ : ∃ model ∈ schema.models, model.IdentifiedByNumber := by
    decide +kernel
  exact ⟨unbroken, model, member, numbered, controller_fits_service member unbroken⟩

end CodeWriter

end PrismaNest
