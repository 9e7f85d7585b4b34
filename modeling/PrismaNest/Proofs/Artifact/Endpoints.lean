import PrismaNest.Proofs.Artifact.Indentation
import PrismaNest.Proofs.Artifact.Properties
import PrismaNest.Proofs.Code.Methods

/-! The endpoints of a controller and the methods of its service.

Both files are written for themselves, and each is read as methods here. What the controller calls is
what the service declares: the same methods of the one member that it is constructed with, and with
arguments that are parameters of the endpoint and have the types that the service asks for.
-/

set_option autoImplicit false

namespace PrismaNest

open Text

/-- The texts of code lines, as they are read. -/
def textsOf (code : List CodeLine) : List (List Char) :=
  code.map fun line => line.text.toList

theorem textsOf_append (code further : List CodeLine) :
    textsOf (code ++ further) = textsOf code ++ textsOf further :=
  List.map_append

theorem statementsOf_renderAll {code : List CodeLine} (nonempty : code ≠ [])
    (unbroken : ∀ line ∈ code, Lacks '\n' line.text) (flush : ∀ line ∈ code, line.Flush) (width : Nat) :
    statementsOf (CodeLine.renderAll width code) = textsOf code ++ [[]] := by
  rw [statementsOf, CodeLine.lines_renderAll nonempty unbroken, List.map_append, List.map_map]
  refine congrArg (· ++ _) (List.map_congr_left fun line member => unindented_render ?_ width)
  intro c first
  rw [decide_eq_false_iff_not]
  rintro rfl
  exact flush line member first

/-! ### What is read from a controller -/

/-- A method that returns what a call gives. -/
def Method.answering (heading : Heading) (call : Call) : Method :=
  ⟨heading, [("return " ++ call.text ++ ";").toList]⟩

theorem Method.calls_answering {heading : Heading} {call : Call} (legible : call.Legible) :
    (answering heading call).calls = [call] := by
  rw [calls, answering, List.filterMap_cons, Call.ofLine?_text legible, List.filterMap_nil]

/-- An endpoint is written for a heading and a call. -/
structure Endpoint.WrittenFor (endpoint : Endpoint) (heading : Heading) (call : Call) : Prop where
  documentation : ∀ line ∈ endpoint.documentation, IsIdle line.text.toList
  declares : endpoint.signature = heading.text
  answers : endpoint.call = call.text
  heading : heading.Legible
  call : call.Legible

theorem getLast?_opening (text : String) : (text ++ " \x7b").toList.getLast? = some '{' := by
  simp

theorem isIdle_closing : IsIdle ['}'] :=
  IdleFront.isIdle (by decide +kernel)

namespace Endpoint

variable {endpoint : Endpoint} {heading : Heading} {call : Call}

/-- The lines in front of the method of an endpoint. -/
def decoration (documented : Bool) (endpoint : Endpoint) : List CodeLine :=
  [.blank, ⟨1, "@" ++ endpoint.route⟩]
    ++ if documented then endpoint.documentation.map (CodeLine.inside 1) else []

theorem idle_decoration (written : endpoint.WrittenFor heading call) (documented : Bool) :
    ∀ line ∈ textsOf (endpoint.decoration documented), IsIdle line := by
  have route : IsIdle ("@" ++ endpoint.route).toList := isIdle_text (by decide +kernel) _
  intro line member
  obtain ⟨codeLine, inside, rfl⟩ := List.mem_map.mp member
  simp only [decoration, List.mem_append, List.mem_pair] at inside
  rcases inside with (rfl | rfl) | inside
  · exact isIdle_nil
  · exact route
  · split at inside
    · obtain ⟨documentation, listed, rfl⟩ := List.mem_map.mp inside
      exact written.documentation documentation listed
    · cases inside

theorem textsOf_lines (written : endpoint.WrittenFor heading call) (documented : Bool) :
    textsOf (endpoint.lines documented) = textsOf (endpoint.decoration documented) ++
      (heading.text ++ " \x7b").toList :: ((Method.answering heading call).body ++ [['}']]) := by
  rw [lines, textsOf_append, written.declares, written.answers]
  rfl

theorem readAll_lines (written : endpoint.WrittenFor heading call) (documented : Bool)
    (rest : List (List Char)) :
    Method.readAll none (textsOf (endpoint.lines documented) ++ rest) =
      Method.answering heading call :: Method.readAll none rest := by
  have inside : ['}'] ∉ (Method.answering heading call).body := by
    simp [Method.answering]
  rw [textsOf_lines written, List.append_assoc, Method.readAll_idle (idle_decoration written documented),
    List.cons_append, List.append_assoc]
  exact Method.readAll_method (Heading.ofLine?_text written.heading " \x7b")
    (getLast?_opening heading.text) inside

theorem calls_lines (written : endpoint.WrittenFor heading call) (documented : Bool) :
    (textsOf (endpoint.lines documented)).filterMap Call.ofLine? = [call] := by
  have answer : (Method.answering heading call).body.filterMap Call.ofLine? = [call] :=
    Method.calls_answering written.call
  rw [textsOf_lines written, List.filterMap_append, filterMap_idle (idle_decoration written documented),
    List.filterMap_cons, Heading.noCall written.heading, List.filterMap_append, answer,
    filterMap_idle (by simpa using isIdle_closing)]
  rfl

end Endpoint

section
variable {endpoints : List Endpoint} {served : List (Heading × Call)}
  (written : List.Forall₂ (fun endpoint pair => endpoint.WrittenFor pair.1 pair.2) endpoints served)
include written

theorem readAll_endpoints (documented : Bool) (rest : List (List Char)) :
    Method.readAll none (textsOf (endpoints.flatMap (Endpoint.lines documented)) ++ rest) =
      served.map (fun pair => .answering pair.1 pair.2) ++ Method.readAll none rest := by
  induction written with
  | nil => rfl
  | cons first _ ih =>
    rw [List.flatMap_cons, textsOf_append, List.append_assoc, Endpoint.readAll_lines first, ih,
      List.map_cons, List.cons_append]

theorem calls_endpoints (documented : Bool) :
    (textsOf (endpoints.flatMap (Endpoint.lines documented))).filterMap Call.ofLine? =
      served.map Prod.snd := by
  induction written with
  | nil => rfl
  | cons first _ ih =>
    rw [List.flatMap_cons, textsOf_append, List.filterMap_append, Endpoint.calls_lines first, ih]
    rfl

theorem calls_served : ∀ pair ∈ served, (Method.answering pair.1 pair.2).calls = [pair.2] := by
  induction written with
  | nil => exact List.forall_mem_nil _
  | cons first _ ih => exact List.forall_mem_cons.mpr ⟨Method.calls_answering first.call, ih⟩

end

/-! ### Lines that only stand between methods -/

theorem idle_entityDocumentation (decorator entityName : String) :
    ∀ line ∈ entityDocumentation decorator entityName, IsIdle line.text.toList := by
  intro line member
  rw [List.mem_singleton.mp member]
  simp only [String.append_assoc]
  exact isIdle_text (by decide +kernel) _

-- The one line that is not fixed begins with a key.
theorem idle_pageDocumentation (entityName : String) :
    ∀ line ∈ pageDocumentation entityName, IsIdle line.text.toList := by
  have fixed : ∀ line ∈ pageDocumentation "", IdleFront line.text.toList := by
    decide +kernel
  intro line member
  have parted : line ∈ pageDocumentation "" ∨
      line = ⟨3, "data: \x7b type: 'array', items: \x7b $ref: getSchemaPath(" ++ entityName ++ ") \x7d \x7d,"⟩ := by
    simp only [pageDocumentation, List.mem_append, List.mem_cons, List.not_mem_nil, or_false] at member ⊢
    tauto
  rcases parted with other | rfl
  · exact (fixed line other).isIdle
  · simp only [String.append_assoc]
    exact isIdle_text (by decide +kernel) _

theorem idle_importLine (names : List String) (source : String) :
    IsIdle (importLine names source).toList := by
  rw [toList_importLine]
  exact isIdle_append (by decide +kernel) _

theorem idle_codeBlock (imports : Imports) : ∀ line ∈ imports.codeBlock, IsIdle line.text.toList := by
  intro line member
  rcases Imports.eq_of_mem_codeBlock member with ⟨entry, -, rfl⟩ | rfl
  · exact idle_importLine _ _
  · exact isIdle_nil

theorem idle_classLine (name : String) : IsIdle ("export class " ++ name ++ " \x7b").toList := by
  rw [String.append_assoc]
  exact isIdle_text (by decide +kernel) _

theorem classNameOf?_importLine (names : List String) (source : String) :
    classNameOf? (importLine names source).toList = none := by
  rw [classNameOf?, toList_importLine, dropPrefix?_eq_none (by decide), Option.map_none]

theorem classNameOf?_classLine {name : String} (isWord : IsWord name) :
    classNameOf? ("export class " ++ name ++ " \x7b").toList = some name := by
  have opening : ("export class " ++ name ++ " \x7b").toList.dropPrefix? "export class ".toList =
      some (name ++ " \x7b").toList := by
    rw [String.append_assoc, String.toList_append]
    exact List.dropPrefix?_append_of_beq _ (beq_self_eq_true _)
  have stop : StartsOutside isWordChar " \x7b".toList := by decide +kernel
  rw [classNameOf?, opening, Option.map_some, String.toList_append, takeWhile_run isWord.word stop,
    String.ofList_toList]

/-! ### What is read from a service -/

/-- A method in lines of code: its heading, perhaps as that of an asynchronous method, and a body in
which no line is a brace alone. -/
structure Heading.Opens (heading : Heading) (code : List CodeLine) (first : CodeLine) : Prop where
  legible : heading.Legible
  shape : code = first :: (code.tail.dropLast ++ [⟨1, "\x7d"⟩])
  declares : first.text = heading.text ++ " \x7b" ∨ first.text = "async " ++ heading.text ++ " \x7b"
  inside : ∀ line ∈ code.tail.dropLast, line.text ≠ "\x7d"

theorem Heading.Opens.headings {heading : Heading} {code : List CodeLine} {first : CodeLine}
    (opens : heading.Opens code first) (rest : List (List Char)) :
    (Method.readAll none (textsOf code ++ rest)).map Method.heading =
      heading :: (Method.readAll none rest).map Method.heading := by
  obtain ⟨legible, shape, declares, inside⟩ := opens
  have texts : textsOf code ++ rest =
      first.text.toList :: (textsOf code.tail.dropLast ++ ['}'] :: rest) := by
    conv_lhs => rw [shape]
    simp [textsOf]
  have body : ['}'] ∉ textsOf code.tail.dropLast := by
    intro closing
    obtain ⟨line, member, same⟩ := List.mem_map.mp closing
    exact inside line member (String.toList_inj.mp same)
  have read : Heading.ofLine? " \x7b".toList first.text.toList = some heading := by
    rcases declares with plain | marked
    · rw [plain, Heading.ofLine?_text legible]
    · rw [marked, Heading.ofLine?_async legible]
  have last : first.text.toList.getLast? = some '{' := by
    rcases declares with plain | marked
    · rw [plain, getLast?_opening]
    · rw [marked, getLast?_opening]
  rw [texts, Method.readAll_method read last body, List.map_cons]

/-! ### The endpoints of a model -/

namespace Model

/-- The identifier of a row as an endpoint takes it from its path. -/
def boundId (model : Model) : Parameter where
  binding := if model.hasNumericId then "@Param('id', ParseIntPipe) " else "@Param('id') "
  name := "id"
  type := model.idType

/-- The identifier of a row as the service takes it. -/
def servedId (model : Model) : Parameter :=
  ⟨"", "id", model.idType⟩

/-- The endpoints of a model, each with the call that it makes. -/
def served (model : Model) : List (Heading × Call) :=
  [(⟨"create", [⟨"@Body() ", model.createArgument, model.createDtoName⟩]⟩,
      ⟨model.serviceMember, "create", [model.createArgument]⟩),
   (⟨"findAll", [⟨"@Query() ", "query", model.searchDtoName⟩]⟩,
      ⟨model.serviceMember, "findAll", ["query"]⟩),
   (⟨"findOne", [model.boundId]⟩, ⟨model.serviceMember, "findOne", ["id"]⟩),
   (⟨"update", [model.boundId, ⟨"@Body() ", model.updateArgument, model.updateDtoName⟩]⟩,
      ⟨model.serviceMember, "update", ["id", model.updateArgument]⟩),
   (⟨"remove", [model.boundId]⟩, ⟨model.serviceMember, "remove", ["id"]⟩)]

/-- The methods that a service declares, after its constructor. -/
def serviceHeadings (model : Model) : List Heading :=
  [⟨"create", [⟨"", model.createArgument, model.createDtoName⟩]⟩,
   ⟨"findAll", [⟨"", "query", model.searchDtoName⟩]⟩,
   ⟨"findOne", [model.servedId]⟩,
   ⟨"update", [model.servedId, ⟨"", model.updateArgument, model.updateDtoName⟩]⟩,
   ⟨"remove", [model.servedId]⟩]

/-- The constructor of a controller, which takes the service. -/
def controllerConstructor (model : Model) : Heading :=
  ⟨"constructor", [⟨"private readonly ", model.serviceMember, model.serviceName⟩]⟩

def serviceConstructor : Heading :=
  ⟨"constructor", [⟨"private readonly ", "prisma", "PrismaService"⟩]⟩

variable {model : Model}

theorem idParameter_eq : model.idParameter = model.boundId.text := by
  rw [idParameter, boundId, Parameter.text]
  cases model.hasNumericId <;> rfl

theorem isWord_idType : IsWord model.idType := by
  unfold idType
  cases model.hasNumericId <;> decide +kernel

section
variable (word : IsWord model.name)
include word

theorem isWord_argument {start : String} (isWord : IsWord start) : IsWord (start ++ model.name ++ "Dto") :=
  (isWord.append word.word).append (List.all_eq_true.mp (by decide +kernel))

theorem isAtom_serviceMember : IsAtom model.serviceMember := by
  have service : IsWord "Service" := by decide +kernel
  refine ⟨by simp [serviceMember], fun sign listed => lacks_append.mpr ⟨?_, service.isAtom.plain sign listed⟩⟩
  exact Naming.lacks_lowerFirst (not_isLabelChar_of_mem_partSigns listed) word.word

omit word in
theorem legible_boundId : model.boundId.Legible := by
  have id : IsWord "id" := by decide +kernel
  have bindings : Parameter.IsBinding "@Param('id', ParseIntPipe) " ∧ Parameter.IsBinding "@Param('id') " := by
    decide +kernel
  refine ⟨?_, id.isAtom, isWord_idType.isAtom⟩
  unfold boundId
  split
  · exact bindings.1
  · exact bindings.2

theorem writtenFor_endpoints : List.Forall₂ (fun endpoint pair => endpoint.WrittenFor pair.1 pair.2)
    model.endpoints model.served := by
  have service := isAtom_serviceMember word
  have names : ∀ name ∈ ["create", "findAll", "findOne", "update", "remove", "query", "id"], IsWord name := by
    decide +kernel
  have create := isWord_argument word (names "create" (by decide))
  have update := isWord_argument word (names "update" (by decide))
  have bindings : Parameter.IsBinding "@Body() " ∧ Parameter.IsBinding "@Query() " := by decide +kernel
  have dto (kind : ArtifactKind) : IsAtom (kind.className model) :=
    (ArtifactKind.isWord_className word kind).isAtom
  refine .cons ?create (.cons ?findAll (.cons ?findOne (.cons ?update (.cons ?remove .nil))))
  case create =>
    refine ⟨idle_entityDocumentation _ _, ?_, ?_, ⟨names "create" (by decide), ?_⟩,
      ⟨service, (names "create" (by decide)).isAtom, ?_⟩⟩
    · simp [Heading.text, Parameter.text, ← String.toList_inj]
    · simp [Call.text, ← String.toList_inj]
    · exact List.forall_mem_singleton.mpr ⟨bindings.1, create.isAtom, dto .createDto⟩
    · exact List.forall_mem_singleton.mpr create.isAtom
  case findAll =>
    refine ⟨idle_pageDocumentation _, ?_, ?_, ⟨names "findAll" (by decide), ?_⟩,
      ⟨service, (names "findAll" (by decide)).isAtom, ?_⟩⟩
    · simp [Heading.text, Parameter.text, ← String.toList_inj]
    · simp [Call.text, ← String.toList_inj]
    · exact List.forall_mem_singleton.mpr ⟨bindings.2, (names "query" (by decide)).isAtom, dto .searchDto⟩
    · exact List.forall_mem_singleton.mpr (names "query" (by decide)).isAtom
  case findOne =>
    refine ⟨idle_entityDocumentation _ _, ?_, ?_, ⟨names "findOne" (by decide), ?_⟩,
      ⟨service, (names "findOne" (by decide)).isAtom, ?_⟩⟩
    · simp [idParameter_eq, Heading.text]
    · simp [Call.text, ← String.toList_inj]
    · exact List.forall_mem_singleton.mpr legible_boundId
    · exact List.forall_mem_singleton.mpr (names "id" (by decide)).isAtom
  case update =>
    refine ⟨idle_entityDocumentation _ _, ?_, ?_, ⟨names "update" (by decide), ?_⟩,
      ⟨service, (names "update" (by decide)).isAtom, ?_⟩⟩
    · simp [idParameter_eq, Heading.text, Parameter.text, ← String.toList_inj]
    · simp [Call.text, ← String.toList_inj]
    · exact List.forall_mem_cons.mpr ⟨legible_boundId,
        List.forall_mem_singleton.mpr ⟨bindings.1, update.isAtom, dto .updateDto⟩⟩
    · exact List.forall_mem_cons.mpr ⟨(names "id" (by decide)).isAtom,
        List.forall_mem_singleton.mpr update.isAtom⟩
  case remove =>
    refine ⟨idle_entityDocumentation _ _, ?_, ?_, ⟨names "remove" (by decide), ?_⟩,
      ⟨service, (names "remove" (by decide)).isAtom, ?_⟩⟩
    · simp [idParameter_eq, Heading.text]
    · simp [Call.text, ← String.toList_inj]
    · exact List.forall_mem_singleton.mpr legible_boundId
    · exact List.forall_mem_singleton.mpr (names "id" (by decide)).isAtom

theorem legible_controllerConstructor : model.controllerConstructor.Legible := by
  have isWord : IsWord "constructor" := by decide +kernel
  have binding : Parameter.IsBinding "private readonly " := by decide +kernel
  exact ⟨isWord, List.forall_mem_singleton.mpr ⟨binding, isAtom_serviceMember word,
    (ArtifactKind.isWord_className word .service).isAtom⟩⟩

omit word in
/-- The lines of a controller in front of its constructor. -/
theorem idle_controllerHead (settings : Settings) :
    ∀ line ∈ textsOf ((model.controllerImports settings).codeBlock ++ model.controllerDecorators settings ++
      [⟨0, "export class " ++ model.controllerName ++ " \x7b"⟩]), IsIdle line := by
  have decorator : ∀ line ∈ model.controllerDecorators settings, ∃ rest, line.text.toList = ['@'] ++ rest := by
    unfold controllerDecorators
    cases settings.enableSwagger <;> cases settings.enableGuards <;> simp
  intro line member
  obtain ⟨codeLine, inside, rfl⟩ := List.mem_map.mp member
  simp only [List.mem_append, List.mem_singleton] at inside
  rcases inside with (imported | decorates) | rfl
  · exact idle_codeBlock _ codeLine imported
  · obtain ⟨rest, starts⟩ := decorator codeLine decorates
    rw [starts]
    exact isIdle_append (by decide +kernel) rest
  · exact idle_classLine model.controllerName

omit word in
theorem textsOf_controllerLines (settings : Settings) :
    textsOf (model.controllerLines settings) ++ [[]] =
      textsOf ((model.controllerImports settings).codeBlock ++ model.controllerDecorators settings ++
        [⟨0, "export class " ++ model.controllerName ++ " \x7b"⟩]) ++
        (model.controllerConstructor.text ++ " \x7b\x7d").toList ::
          (textsOf (model.endpoints.flatMap (Endpoint.lines settings.enableSwagger)) ++ [['}'], []]) := by
  have constructor_eq : "constructor(private readonly " ++ model.serviceMember ++ ": " ++ model.serviceName
      ++ ") \x7b\x7d" = model.controllerConstructor.text ++ " \x7b\x7d" := by
    simp [controllerConstructor, Heading.text, Parameter.text, ← String.toList_inj]
  simp [controllerLines, textsOf, constructor_eq]

theorem readAll_controller (settings : Settings) :
    Method.readAll none (textsOf (model.controllerLines settings) ++ [[]]) =
      ⟨model.controllerConstructor, []⟩ :: model.served.map fun pair => .answering pair.1 pair.2 := by
  have ended : Method.readAll none [['}'], []] = [] := by decide +kernel
  rw [textsOf_controllerLines, Method.readAll_idle (idle_controllerHead settings),
    Method.readAll_empty (Heading.ofLine?_text (legible_controllerConstructor word) " \x7b\x7d"),
    readAll_endpoints (writtenFor_endpoints word), ended, List.append_nil]

theorem calls_controller (settings : Settings) :
    (textsOf (model.controllerLines settings) ++ [[]]).filterMap Call.ofLine? =
      model.served.map Prod.snd := by
  have ended : [['}'], []].filterMap Call.ofLine? = [] := by decide +kernel
  rw [textsOf_controllerLines, List.filterMap_append, filterMap_idle (idle_controllerHead settings),
    List.filterMap_cons, Heading.noCall (legible_controllerConstructor word), List.filterMap_append,
    calls_endpoints (writtenFor_endpoints word), ended, List.append_nil]
  rfl

omit word in
theorem eq_importLine_of_mem_serviceImports {settings : Settings} {line : CodeLine}
    (member : line ∈ model.serviceImports settings) : ∃ names source, line = ⟨0, importLine names source⟩ := by
  simp only [serviceImports, List.mem_cons, List.not_mem_nil, or_false] at member
  rcases member with rfl | rfl | rfl | rfl | rfl <;> exact ⟨_, _, rfl⟩

omit word in
/-- The lines of a service in front of its constructor. -/
theorem idle_serviceHead (settings : Settings) :
    ∀ line ∈ textsOf (model.serviceImports settings ++
      [.blank, ⟨0, "@Injectable()"⟩, ⟨0, "export class " ++ model.serviceName ++ " \x7b"⟩]), IsIdle line := by
  have injectable : IdleFront "@Injectable()".toList := by decide +kernel
  intro line member
  obtain ⟨codeLine, inside, rfl⟩ := List.mem_map.mp member
  simp only [List.mem_append, List.mem_cons, List.not_mem_nil, or_false] at inside
  rcases inside with imported | rfl | rfl | rfl
  · obtain ⟨names, source, rfl⟩ := eq_importLine_of_mem_serviceImports imported
    exact idle_importLine names source
  · exact isIdle_nil
  · exact injectable.isIdle
  · exact idle_classLine model.serviceName

theorem opens_serviceCreate :
    ∃ first, Heading.Opens ⟨"create", [⟨"", model.createArgument, model.createDtoName⟩]⟩
      model.serviceCreate first := by
  have isWord : IsWord "create" := by decide +kernel
  refine ⟨_, ⟨isWord, List.forall_mem_singleton.mpr ⟨Parameter.isBinding_empty,
    (isWord_argument word isWord).isAtom, (ArtifactKind.isWord_className word .createDto).isAtom⟩⟩, rfl,
    .inl ?_, ?_⟩
  · simp [Heading.text, Parameter.text, ← String.toList_inj]
  · simp [serviceCreate, ← String.toList_inj]

theorem opens_serviceFindAll (pageSize : Nat) :
    ∃ first, Heading.Opens ⟨"findAll", [⟨"", "query", model.searchDtoName⟩]⟩
      (model.serviceFindAll pageSize) first := by
  have isWord : IsWord "findAll" ∧ IsWord "query" := by decide +kernel
  refine ⟨_, ⟨isWord.1, List.forall_mem_singleton.mpr ⟨Parameter.isBinding_empty, isWord.2.isAtom,
    (ArtifactKind.isWord_className word .searchDto).isAtom⟩⟩, rfl, .inr ?_, ?_⟩
  · simp [Heading.text, Parameter.text, ← String.toList_inj]
  · simp [serviceFindAll, rows, ← String.toList_inj]

omit word in
theorem legible_servedId : model.servedId.Legible := by
  have id : IsWord "id" := by decide +kernel
  exact ⟨Parameter.isBinding_empty, id.isAtom, isWord_idType.isAtom⟩

omit word in
theorem opens_serviceFindOne (model : Model) :
    ∃ first, Heading.Opens ⟨"findOne", [model.servedId]⟩ model.serviceFindOne first := by
  have isWord : IsWord "findOne" := by decide +kernel
  refine ⟨_, ⟨isWord, List.forall_mem_singleton.mpr legible_servedId⟩, rfl, .inl ?_, ?_⟩
  · simp [Heading.text, Parameter.text, servedId, ← String.toList_inj]
  · simp [serviceFindOne, ← String.toList_inj]

theorem opens_serviceUpdate :
    ∃ first, Heading.Opens ⟨"update", [model.servedId, ⟨"", model.updateArgument, model.updateDtoName⟩]⟩
      model.serviceUpdate first := by
  have isWord : IsWord "update" := by decide +kernel
  refine ⟨_, ⟨isWord, List.forall_mem_cons.mpr ⟨legible_servedId, List.forall_mem_singleton.mpr
    ⟨Parameter.isBinding_empty, (isWord_argument word isWord).isAtom,
      (ArtifactKind.isWord_className word .updateDto).isAtom⟩⟩⟩, rfl, .inl ?_, ?_⟩
  · simp [Heading.text, Parameter.text, servedId, ← String.toList_inj]
  · simp [serviceUpdate, ← String.toList_inj]

omit word in
theorem opens_serviceRemove (model : Model) :
    ∃ first, Heading.Opens ⟨"remove", [model.servedId]⟩ model.serviceRemove first := by
  have isWord : IsWord "remove" := by decide +kernel
  refine ⟨_, ⟨isWord, List.forall_mem_singleton.mpr legible_servedId⟩, rfl, .inl ?_, ?_⟩
  · simp [Heading.text, Parameter.text, servedId, ← String.toList_inj]
  · simp [serviceRemove, ← String.toList_inj]

omit word in
theorem textsOf_serviceLines (settings : Settings) :
    textsOf (model.serviceLines settings) ++ [[]] =
      textsOf (model.serviceImports settings ++
        [.blank, ⟨0, "@Injectable()"⟩, ⟨0, "export class " ++ model.serviceName ++ " \x7b"⟩]) ++
        (serviceConstructor.text ++ " \x7b\x7d").toList :: ([] :: (textsOf model.serviceCreate ++ [] ::
          (textsOf (model.serviceFindAll settings.defaultPageSize) ++ [] :: (textsOf model.serviceFindOne ++
            [] :: (textsOf model.serviceUpdate ++ [] :: (textsOf model.serviceRemove ++ [['}'], []])))))) := by
  have constructor_eq : "constructor(private readonly prisma: PrismaService) \x7b\x7d" =
      serviceConstructor.text ++ " \x7b\x7d" := by
    decide +kernel
  simp [serviceLines, textsOf, constructor_eq, CodeLine.blank]

theorem headings_service (settings : Settings) :
    (Method.readAll none (textsOf (model.serviceLines settings) ++ [[]])).map Method.heading =
      serviceConstructor :: model.serviceHeadings := by
  have opened : serviceConstructor.Legible := by
    have isWord : IsWord "constructor" ∧ IsWord "prisma" ∧ IsWord "PrismaService" := by decide +kernel
    have binding : Parameter.IsBinding "private readonly " := by decide +kernel
    exact ⟨isWord.1, List.forall_mem_singleton.mpr ⟨binding, isWord.2.1.isAtom, isWord.2.2.isAtom⟩⟩
  have blank (rest : List (List Char)) : Method.readAll none ([] :: rest) = Method.readAll none rest :=
    Method.readAll_idle (List.forall_mem_singleton.mpr isIdle_nil)
  have ended : Method.readAll none [['}'], []] = [] := by decide +kernel
  obtain ⟨_, create⟩ := opens_serviceCreate word
  obtain ⟨_, findAll⟩ := opens_serviceFindAll word settings.defaultPageSize
  obtain ⟨_, findOne⟩ := model.opens_serviceFindOne
  obtain ⟨_, update⟩ := opens_serviceUpdate word
  obtain ⟨_, remove⟩ := model.opens_serviceRemove
  rw [textsOf_serviceLines, Method.readAll_idle (idle_serviceHead settings),
    Method.readAll_empty (Heading.ofLine?_text opened " \x7b\x7d"), List.map_cons, blank, create.headings,
    blank, findAll.headings, blank, findOne.headings, blank, update.headings, blank, remove.headings, ended]
  rfl

end

end Model

end PrismaNest
