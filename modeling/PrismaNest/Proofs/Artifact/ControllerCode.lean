import PrismaNest.Proofs.Artifact.Imports
import PrismaNest.Proofs.Text.Symbols

/-! What the code of a controller applies.

The code of a controller applies decorators, a pipe, a schema helper and a guard, and it names classes
of other artifacts of its model. Apart from the guard, whose name the settings give, all of them are
symbols of the code, and each is among the imports of a controller.
-/

set_option autoImplicit false

namespace PrismaNest

open Text

/-- The artifacts whose classes a controller may name. -/
def ArtifactKind.served : List ArtifactKind :=
  [service, createDto, updateDto, searchDto, entity]

/-- The functions that a controller hands over or calls. -/
def Model.helperNames : List String :=
  ["ParseIntPipe", "getSchemaPath"]

/-- A symbol of a controller that stands for a name to be imported: a decorator, a helper, or the
class of another artifact. -/
inductive Applies (model : Model) : String → String → Prop where
  | decorator (name : String) : Applies model ("@" ++ name) name
  | helper {name : String} : name ∈ Model.helperNames → Applies model name name
  | artifact {kind : ArtifactKind} : kind ∈ ArtifactKind.served →
      Applies model (kind.className model) (kind.className model)

/-- Whatever a symbol applies is among the imports of a controller. -/
def Covered (settings : Settings) (model : Model) (symbol : String) : Prop :=
  ∀ name, Applies model symbol name →
    ∃ entry ∈ ArtifactKind.controller.imports settings model, name ∈ entry.2

/-- A symbol that stands for nothing that only some controllers import. -/
structure IsPlain (symbol : String) : Prop where
  decorator : symbol.toList.head? = some '@' →
    symbol ∈ (Model.commonNames false false).map ("@" ++ ·)
  noHelper : symbol ∉ Model.helperNames
  noEntity : ¬ "Entity".toList <:+ symbol.toList

theorem isPlain_iff {symbol : String} : IsPlain symbol ↔
    (symbol.toList.head? = some '@' → symbol ∈ (Model.commonNames false false).map ("@" ++ ·)) ∧
      symbol ∉ Model.helperNames ∧ ¬ "Entity".toList <:+ symbol.toList :=
  ⟨fun plain => ⟨plain.decorator, plain.noHelper, plain.noEntity⟩,
    fun parts => ⟨parts.1, parts.2.1, parts.2.2⟩⟩

instance : DecidablePred IsPlain :=
  fun _ => decidable_of_iff _ isPlain_iff.symm

section
variable {symbol : String} (noSign : Lacks '@' symbol)
include noSign

theorem isPlain_of_lacks (noE : Lacks 'E' symbol) (noP : Lacks 'P' symbol) : IsPlain symbol := by
  refine ⟨fun first => absurd (List.mem_of_head? first) noSign, fun helper => ?_, fun entity => ?_⟩
  · have capital : ∀ name ∈ Model.helperNames, ¬ Lacks 'P' name := by decide
    exact capital symbol helper noP
  · exact noE (entity.mem (by decide))

theorem isPlain_of_suffix {ending : String} (listed : ending ∈ ["Dto", "Service", "Controller"])
    (suffix : ending.toList <:+ symbol.toList) : IsPlain symbol := by
  refine ⟨fun first => absurd (List.mem_of_head? first) noSign, fun helper => ?_, fun entity => ?_⟩
  · have apart : ∀ ending ∈ ["Dto", "Service", "Controller"], ∀ name ∈ Model.helperNames,
        ¬ ending.toList <:+ name.toList := by decide
    exact apart ending listed symbol helper suffix
  · have apart : ∀ ending ∈ ["Dto", "Service", "Controller"],
        ¬ (ending.toList <:+ "Entity".toList ∨ "Entity".toList <:+ ending.toList) := by decide
    exact apart ending listed (List.suffix_or_suffix_of_suffix suffix entity)

theorem isPlain_of_length (short : symbol.toList.length ≤ 2) : IsPlain symbol := by
  refine ⟨fun first => absurd (List.mem_of_head? first) noSign, fun helper => ?_, fun entity => ?_⟩
  · have long : ∀ name ∈ Model.helperNames, ¬ name.toList.length ≤ 2 := by decide
    exact long symbol helper short
  · have long : "Entity".toList.length = 6 := by decide
    have := entity.length_le
    omega

end

/-! ### Symbols that are covered -/

section
variable (settings : Settings) (model : Model)

theorem ArtifactKind.commonNames_mem_imports :
    (commonModule, Model.commonNames settings.enableGuards model.hasNumericId) ∈
      ArtifactKind.controller.imports settings model := by
  simp [imports, outsideImports]

theorem ArtifactKind.swaggerNames_mem_imports {settings : Settings} (documented : settings.enableSwagger = true) :
    (swaggerModule, Model.swaggerNames settings.enableGuards) ∈
      ArtifactKind.controller.imports settings model := by
  simp [imports, outsideImports, documented]

theorem ArtifactKind.reference_mem_imports {kind : ArtifactKind}
    (used : kind ∈ ArtifactKind.controller.uses settings) :
    ArtifactKind.controller.reference model kind ∈ ArtifactKind.controller.imports settings model :=
  List.mem_append_right _ (List.mem_map_of_mem used)

end

section
variable {settings : Settings} {model : Model} {symbol : String} {entry : String × List String}

theorem IsPlain.covered (plain : IsPlain symbol) : Covered settings model symbol := by
  intro name applies
  cases applies with
  | decorator =>
    obtain ⟨listed, inside, same⟩ := List.mem_map.mp (plain.decorator (by simp))
    have always : Model.commonNames false false ⊆
        Model.commonNames settings.enableGuards model.hasNumericId := by
      cases settings.enableGuards <;> cases model.hasNumericId <;> decide
    obtain rfl : listed = name := by simpa using same
    exact ⟨_, ArtifactKind.commonNames_mem_imports settings model, always inside⟩
  | helper listed => exact absurd listed plain.noHelper
  | @artifact kind served =>
    have entity : kind ≠ .entity := by
      rintro rfl
      apply plain.noEntity
      rw [ArtifactKind.className, Model.entityName, String.toList_append]
      exact List.suffix_append _ _
    have used : kind ∈ ArtifactKind.controller.uses settings :=
      List.mem_append_left _ (by simpa [ArtifactKind.served, entity] using served)
    exact ⟨_, ArtifactKind.reference_mem_imports settings model used, List.mem_singleton_self _⟩

-- A symbol without the sign of a decorator applies nothing but itself.
theorem covered_of_mem (noSign : symbol.toList.head? ≠ some '@')
    (member : entry ∈ ArtifactKind.controller.imports settings model) (inside : symbol ∈ entry.2) :
    Covered settings model symbol := by
  intro name applies
  cases applies with
  | decorator => exact absurd (by simp) noSign
  | helper | artifact => exact ⟨entry, member, inside⟩

theorem covered_decorator (word : IsWord model.name)
    (member : entry ∈ ArtifactKind.controller.imports settings model) (inside : symbol ∈ entry.2) :
    Covered settings model ("@" ++ symbol) := by
  intro name applies
  generalize written : "@" ++ symbol = decorator at applies
  have sign : '@' ∈ decorator.toList := by simp [← written]
  cases applies with
  | decorator =>
    obtain rfl : symbol = name := by simpa using written
    exact ⟨entry, member, inside⟩
  | helper listed =>
    have plain : ∀ name ∈ Model.helperNames, Lacks '@' name := by decide
    exact absurd sign (plain _ listed)
  | artifact => exact absurd sign ((ArtifactKind.isWord_className word _).lacks (by decide))

end

/-- A symbol that only documentation applies. -/
def IsDocumentation (symbol : String) : Prop :=
  symbol ∈ "getSchemaPath" :: (Model.swaggerNames false).map ("@" ++ ·)

instance : DecidablePred IsDocumentation :=
  fun symbol => inferInstanceAs (Decidable (symbol ∈ "getSchemaPath" :: (Model.swaggerNames false).map ("@" ++ ·)))

theorem IsDocumentation.covered {settings : Settings} {model : Model} {symbol : String}
    (documentation : IsDocumentation symbol) (word : IsWord model.name)
    (documented : settings.enableSwagger = true) : Covered settings model symbol := by
  have member := ArtifactKind.swaggerNames_mem_imports model documented
  have always : Model.swaggerNames false ⊆ Model.swaggerNames settings.enableGuards := by
    cases settings.enableGuards <;> decide
  rcases List.mem_cons.mp documentation with rfl | decorator
  · exact covered_of_mem (by decide) member (always (by decide))
  · obtain ⟨name, inside, rfl⟩ := List.mem_map.mp decorator
    exact covered_decorator word member (always inside)

/-! ### The texts in a controller -/

/-- A text that a controller may hold: all its symbols are covered. -/
abbrev CoveredText (settings : Settings) (model : Model) (text : String) : Prop :=
  AllSymbols (Covered settings model) text

/-- A text that any controller may have behind a name, to stand before further ones. -/
structure IsPlainMark (mark : String) : Prop where
  isMark : IsMark mark
  plain : AllSymbols IsPlain mark

theorem isPlainMark_iff {mark : String} : IsPlainMark mark ↔ IsMark mark ∧ AllSymbols IsPlain mark :=
  ⟨fun both => ⟨both.isMark, both.plain⟩, fun both => ⟨both.1, both.2⟩⟩

instance (mark : String) : Decidable (IsPlainMark mark) :=
  decidable_of_iff _ isPlainMark_iff.symm

namespace CoveredText

variable {settings : Settings} {model : Model} {front mark back : String}

theorem ofPlain {text : String} (plain : AllSymbols IsPlain text) : CoveredText settings model text :=
  plain.mono fun _ => IsPlain.covered

theorem opened (opening : EndsOutside isSymbolChar mark.toList ∧ AllSymbols IsPlain mark)
    (covered : CoveredText settings model back) : CoveredText settings model (mark ++ back) :=
  (ofPlain opening.2).append_of_endsOutside opening.1 covered

theorem closed (covered : CoveredText settings model front) (plainMark : IsPlainMark mark) :
    CoveredText settings model (front ++ mark) :=
  covered.append_of_startsOutside plainMark.isMark.starts (ofPlain plainMark.plain)

theorem between (covered : CoveredText settings model front) (plainMark : IsPlainMark mark)
    (further : CoveredText settings model back) : CoveredText settings model (front ++ mark ++ back) :=
  AllSymbols.between covered plainMark.isMark (ofPlain plainMark.plain) further

end CoveredText

namespace Model

section
variable {settings : Settings} {model : Model}

theorem covered_route : CoveredText settings model model.route := by
  have noSign : Lacks '@' model.route := Naming.lacks_kebabCase (by decide) (by decide) _
  have noE : Lacks 'E' model.route := Naming.lacks_kebabCase_of_isUpper (by decide) _
  have noP : Lacks 'P' model.route := Naming.lacks_kebabCase_of_isUpper (by decide) _
  apply CoveredText.ofPlain
  intro symbol member
  exact isPlain_of_lacks (lacks_of_mem_symbols noSign member) (lacks_of_mem_symbols noE member)
    (lacks_of_mem_symbols noP member)

theorem covered_idParameter : CoveredText settings model model.idParameter := by
  unfold idParameter idType
  cases numeric : model.hasNumericId with
  | false => exact CoveredText.ofPlain (by decide +kernel)
  | true =>
    have symbols : AllSymbols (fun symbol => IsPlain symbol ∨ symbol = "ParseIntPipe")
        "@Param('id', ParseIntPipe) id: number" := by decide +kernel
    refine symbols.mono fun symbol kind => ?_
    rcases kind with plain | rfl
    · exact plain.covered
    · refine covered_of_mem (by decide) (ArtifactKind.commonNames_mem_imports settings model) ?_
      simp [commonNames, numeric]

-- A word is its own only symbol.
theorem allSymbols_of_isWord {P : String → Prop} {text : String} (isWord : IsWord text) (holds : P text) :
    AllSymbols P text := by
  intro symbol member
  rw [symbols_word isWord.word isWord.nonempty, List.mem_singleton] at member
  rwa [member]

theorem covered_of_ending {front ending : String} (isWord : IsWord (front ++ ending))
    (listed : ending ∈ ["Dto", "Service", "Controller"]) :
    CoveredText settings model (front ++ ending) := by
  refine CoveredText.ofPlain (allSymbols_of_isWord isWord ?_)
  refine isPlain_of_suffix (isWord.lacks (by decide)) listed ?_
  rw [String.toList_append]
  exact List.suffix_append _ _

variable (word : IsWord model.name)
include word

theorem covered_className (kind : ArtifactKind) (used : kind ∈ ArtifactKind.controller.uses settings) :
    CoveredText settings model (kind.className model) := by
  have isWord := ArtifactKind.isWord_className word kind
  refine allSymbols_of_isWord isWord (covered_of_mem ?_
    (ArtifactKind.reference_mem_imports settings model used) (List.mem_singleton_self _))
  exact fun first => isWord.lacks (by decide) (List.mem_of_head? first)

-- The first letter of a name may give a character that is none of a word.
theorem covered_serviceMember : CoveredText settings model model.serviceMember := by
  have noSign : Lacks '@' model.serviceMember := by
    rw [serviceMember, lacks_append]
    exact ⟨Naming.lacks_lowerFirst (by decide) word.word, by decide⟩
  obtain ⟨c, rest, spelled⟩ : ∃ c rest, model.name.toList = c :: rest :=
    List.exists_cons_of_ne_nil (by simpa using word.nonempty)
  have parted : model.serviceMember.toList = lowerChar [] c [] ++ (rest ++ "Service".toList) := by
    rw [serviceMember, handle, Naming.lowerFirst, spelled, String.toList_append, String.toList_ofList,
      List.append_assoc]
  have ending : IsWord "Service" := by decide +kernel
  have goesOn : ∀ d ∈ rest ++ "Service".toList, isSymbolChar d = true := by
    rw [List.forall_mem_append]
    refine ⟨fun d member => ?_, fun d member => ?_⟩
    · simp [isSymbolChar, word.word d (by simp [spelled, member])]
    · simp [isSymbolChar, ending.word d member]
  apply CoveredText.ofPlain
  intro symbol member
  have symbolNoSign := lacks_of_mem_symbols noSign member
  obtain ⟨run, inside, rfl⟩ := List.mem_map.mp member
  have chars : (String.ofList run).toList = run := String.toList_ofList
  rw [parted] at inside
  rcases suffix_or_mem_of_mem_runsOf goesOn (by simp) inside with last | first
  · have suffix : "Service".toList <:+ run := (List.suffix_append rest _).trans last
    rw [← chars] at suffix
    exact isPlain_of_suffix symbolNoSign (by decide) suffix
  · apply isPlain_of_length symbolNoSign
    rw [chars]
    exact first.length_le.trans (length_lowerChar_le [] c [])

end

end Model

/-! ### The lines of a controller -/

/-- A line of code whose text is covered. -/
abbrev CodeLine.IsCovered (settings : Settings) (model : Model) (line : CodeLine) : Prop :=
  CoveredText settings model line.text

section
variable {settings : Settings} {model : Model}

/-- The line that puts the guard on a controller. -/
def guardLine (settings : Settings) : CodeLine :=
  ⟨0, "@UseGuards(" ++ settings.guardName ++ ")"⟩

theorem Endpoint.isCovered_lines {endpoint : Endpoint} (route : AllSymbols IsPlain ("@" ++ endpoint.route))
    (documentation : settings.enableSwagger = true →
      ∀ line ∈ endpoint.documentation, line.IsCovered settings model)
    (signature : CoveredText settings model endpoint.signature)
    (call : CoveredText settings model endpoint.call) :
    ∀ line ∈ endpoint.lines settings.enableSwagger, line.IsCovered settings model := by
  have written : CoveredText settings model (endpoint.signature ++ " \x7b") := signature.closed (by decide +kernel)
  have returned : CoveredText settings model ("return " ++ endpoint.call ++ ";") :=
    (call.opened (by decide +kernel)).closed (by decide +kernel)
  have ended : CoveredText settings model "\x7d" := .ofPlain (by decide +kernel)
  have documents : ∀ line ∈ (if settings.enableSwagger then
      endpoint.documentation.map (CodeLine.inside 1) else []), line.IsCovered settings model := by
    cases documented : settings.enableSwagger with
    | false => exact List.forall_mem_nil _
    | true => exact List.forall_mem_map.mpr (documentation documented)
  unfold lines
  simp only [List.forall_mem_append, List.forall_mem_cons]
  exact ⟨⟨⟨.ofPlain (by decide), .ofPlain route, List.forall_mem_nil _⟩, documents⟩, written, returned, ended,
    List.forall_mem_nil _⟩

variable (word : IsWord model.name)
include word

-- What documentation puts around the class of the entity is covered where there is documentation.
theorem coveredText_documentation (documented : settings.enableSwagger = true) {front back : String}
    (ends : EndsOutside isSymbolChar front.toList)
    (fronts : AllSymbols (fun symbol => IsPlain symbol ∨ IsDocumentation symbol) front)
    (backs : IsPlainMark back) : CoveredText settings model (front ++ model.entityName ++ back) := by
  have used : ArtifactKind.entity ∈ ArtifactKind.controller.uses settings := by
    simp [ArtifactKind.uses, documented]
  have covered : CoveredText settings model front :=
    fronts.mono fun symbol kind => kind.elim IsPlain.covered (·.covered word documented)
  have entity := Model.covered_className word .entity used
  have named : CoveredText settings model (front ++ model.entityName) :=
    covered.append_of_endsOutside ends entity
  exact named.closed backs

theorem isCovered_entityDocumentation (documented : settings.enableSwagger = true) {decorator : String}
    (listed : decorator ∈ ["ApiCreatedResponse", "ApiOkResponse"]) :
    ∀ line ∈ entityDocumentation decorator model.entityName, line.IsCovered settings model := by
  have fronts : ∀ decorator ∈ ["ApiCreatedResponse", "ApiOkResponse"],
      EndsOutside isSymbolChar ("@" ++ decorator ++ "(\x7b type: ").toList ∧
        AllSymbols (fun symbol => IsPlain symbol ∨ IsDocumentation symbol)
          ("@" ++ decorator ++ "(\x7b type: ") := by decide +kernel
  obtain ⟨ends, symbols⟩ := fronts decorator listed
  rw [entityDocumentation, List.forall_mem_singleton]
  exact coveredText_documentation word documented ends symbols (by decide +kernel)

theorem isCovered_pageDocumentation (documented : settings.enableSwagger = true) :
    ∀ line ∈ pageDocumentation model.entityName, line.IsCovered settings model := by
  have fixed : ∀ line ∈ pageDocumentation "",
      AllSymbols (fun symbol => IsPlain symbol ∨ IsDocumentation symbol) line.text := by decide +kernel
  have data : CoveredText settings model
      ("data: \x7b type: 'array', items: \x7b $ref: getSchemaPath(" ++ model.entityName ++ ") \x7d \x7d,") :=
    coveredText_documentation word documented (by decide +kernel) (by decide +kernel) (by decide +kernel)
  have others : ∀ line ∈ pageDocumentation "", line.IsCovered settings model := fun line member =>
    (fixed line member).mono fun symbol kind => kind.elim IsPlain.covered (·.covered word documented)
  simp only [pageDocumentation, List.forall_mem_append, List.forall_mem_cons] at others ⊢
  obtain ⟨⟨⟨answer, schema, properties, -, paging⟩, keys⟩, ends⟩ := others
  exact ⟨⟨⟨answer, schema, properties, data, paging⟩, keys⟩, ends⟩

theorem isCovered_endpoints : ∀ endpoint ∈ model.endpoints,
    ∀ line ∈ endpoint.lines settings.enableSwagger, line.IsCovered settings model := by
  have ending : IsWord "Dto" := by decide +kernel
  have argument {lead : String} (isWord : IsWord lead) :
      CoveredText settings model (lead ++ model.name ++ "Dto") :=
    Model.covered_of_ending ((isWord.append word.word).append ending.word) (by decide)
  have createArgument : CoveredText settings model model.createArgument := argument (by decide +kernel)
  have updateArgument : CoveredText settings model model.updateArgument := argument (by decide +kernel)
  have request (kind : ArtifactKind) (listed : kind ∈ [.createDto, .updateDto, .searchDto]) :
      CoveredText settings model (kind.className model) :=
    Model.covered_className word kind (List.mem_append_left _ (List.mem_cons_of_mem _ listed))
  have createDto := request .createDto (by decide)
  have updateDto := request .updateDto (by decide)
  have searchDto := request .searchDto (by decide)
  have service : CoveredText settings model ("this." ++ model.serviceMember) :=
    (Model.covered_serviceMember word).opened (by decide +kernel)
  have parameter : CoveredText settings model model.idParameter := Model.covered_idParameter
  have routes : ∀ route ∈ ["Post()", "Get()", "Get(':id')", "Patch(':id')", "Delete(':id')"],
      AllSymbols IsPlain ("@" ++ route) := by decide +kernel
  simp only [Model.endpoints, List.forall_mem_cons] at routes ⊢
  obtain ⟨post, get, getOne, patch, delete, -⟩ := routes
  refine ⟨?create, ?findAll, ?findOne, ?update, ?remove, List.forall_mem_nil _⟩
  case create =>
    refine Endpoint.isCovered_lines post ?_ ?_ ?_
    · exact fun documented => isCovered_entityDocumentation word documented (by decide)
    · exact ((createArgument.opened (by decide +kernel)).between (by decide +kernel)
        createDto).closed (by decide +kernel)
    · exact (service.between (by decide +kernel) createArgument).closed (by decide +kernel)
  case findAll =>
    refine Endpoint.isCovered_lines get (isCovered_pageDocumentation word) ?_ ?_
    · exact (searchDto.opened (by decide +kernel)).closed (by decide +kernel)
    · exact service.closed (by decide +kernel)
  case findOne =>
    refine Endpoint.isCovered_lines getOne ?_ ?_ ?_
    · exact fun documented => isCovered_entityDocumentation word documented (by decide)
    · exact (parameter.opened (by decide +kernel)).closed (by decide +kernel)
    · exact service.closed (by decide +kernel)
  case update =>
    refine Endpoint.isCovered_lines patch ?_ ?_ ?_
    · exact fun documented => isCovered_entityDocumentation word documented (by decide)
    · exact (((parameter.opened (by decide +kernel)).between (by decide +kernel)
        updateArgument).between (by decide +kernel) updateDto).closed (by decide +kernel)
    · exact (service.between (by decide +kernel) updateArgument).closed (by decide +kernel)
  case remove =>
    refine Endpoint.isCovered_lines delete ?_ ?_ ?_
    · exact fun documented => isCovered_entityDocumentation word documented (by decide)
    · exact (parameter.opened (by decide +kernel)).closed (by decide +kernel)
    · exact service.closed (by decide +kernel)

theorem isCovered_controllerDecorators : ∀ line ∈ model.controllerDecorators settings,
    settings.enableGuards = true ∧ line = guardLine settings ∨ line.IsCovered settings model := by
  have route : CoveredText settings model model.route := Model.covered_route
  have controller : CoveredText settings model ("@Controller('" ++ model.route ++ "')") :=
    (route.opened (by decide +kernel)).closed (by decide +kernel)
  have tags (documented : settings.enableSwagger = true) :
      CoveredText settings model ("@ApiTags('" ++ model.route ++ "')") := by
    have opening : AllSymbols IsDocumentation "@ApiTags('" := by decide +kernel
    have opened : CoveredText settings model ("@ApiTags('" ++ model.route) :=
      (opening.mono fun _ kind => kind.covered word documented).append_of_endsOutside (by decide +kernel) route
    exact opened.closed (by decide +kernel)
  have extra (documented : settings.enableSwagger = true) :
      CoveredText settings model ("@ApiExtraModels(" ++ model.entityName ++ ")") :=
    coveredText_documentation word documented (by decide +kernel) (by decide +kernel) (by decide +kernel)
  have bearer (documented : settings.enableSwagger = true) (guarded : settings.enableGuards = true) :
      CoveredText settings model "@ApiBearerAuth()" := by
    have single : symbols "@ApiBearerAuth()" = ["@" ++ "ApiBearerAuth"] := by decide +kernel
    have inside : "ApiBearerAuth" ∈ Model.swaggerNames settings.enableGuards := by
      simp [Model.swaggerNames, guarded]
    rw [CoveredText, AllSymbols, single, List.forall_mem_singleton]
    exact covered_decorator word (ArtifactKind.swaggerNames_mem_imports model documented) inside
  intro line member
  simp only [Model.controllerDecorators, List.mem_append, List.mem_singleton] at member
  rcases member with ((documentation | authentication) | guard) | rfl
  · split at documentation
    · rename_i documented
      rw [List.mem_pair] at documentation
      obtain rfl | rfl := documentation
      · exact .inr (tags documented)
      · exact .inr (extra documented)
    · cases documentation
  · split at authentication
    · rename_i both
      rw [Bool.and_eq_true] at both
      cases List.mem_singleton.mp authentication
      exact .inr (bearer both.2 both.1)
    · cases authentication
  · split at guard
    · rename_i guarded
      exact .inl ⟨guarded, List.mem_singleton.mp guard⟩
    · cases guard
  · exact .inr controller

/-- Every line of a controller's code is covered, except for the one that puts the guard on it. -/
theorem isCovered_controllerCode : ∀ line ∈ model.controllerCode settings,
    settings.enableGuards = true ∧ line = guardLine settings ∨ line.IsCovered settings model := by
  have named : CoveredText settings model model.controllerName :=
    Model.covered_of_ending (ArtifactKind.isWord_className word .controller) (by decide)
  have opening : CoveredText settings model ("export class " ++ model.controllerName ++ " \x7b") :=
    (named.opened (by decide +kernel)).closed (by decide +kernel)
  have service : CoveredText settings model (ArtifactKind.service.className model) :=
    Model.covered_className word .service List.mem_cons_self
  have member : CoveredText settings model model.serviceMember := Model.covered_serviceMember word
  have construction : CoveredText settings model ("constructor(private readonly " ++ model.serviceMember
      ++ ": " ++ model.serviceName ++ ") \x7b\x7d") :=
    ((member.opened (by decide +kernel)).between (by decide +kernel) service).closed
      (by decide +kernel)
  have ended : CoveredText settings model "\x7d" := .ofPlain (by decide +kernel)
  unfold Model.controllerCode
  simp only [List.forall_mem_append, List.forall_mem_cons]
  refine ⟨⟨⟨isCovered_controllerDecorators word, .inr opening, .inr construction, List.forall_mem_nil _⟩,
    fun line inside => ?_⟩, .inr ended, List.forall_mem_nil _⟩
  obtain ⟨endpoint, endpointMember, lineMember⟩ := List.mem_flatMap.mp inside
  exact .inr (isCovered_endpoints word endpoint endpointMember line lineMember)

end

end PrismaNest
