import PrismaNest.Proofs.Artifact.PropertyClasses
import PrismaNest.Proofs.Schema.Consistency

/-! Properties as they are read from a class.

The body of a class is read line by line: decorators belong to the property that follows them, and
blank lines separate properties. What is read from a class of properties is what it was written for,
so the text of an entity tells its fields, and the text of a create request those that are not excluded.
-/

set_option autoImplicit false

namespace PrismaNest

open Text

/-- What a class declares of a property, decorators apart. -/
structure Signature where
  name : String
  isOptional : Bool
  type : String
  deriving DecidableEq, Repr

/-- A property of a class with the decorators in front of it, without their signs. -/
structure Property where
  decorators : List String
  signature : Signature
  deriving DecidableEq, Repr

/-- The name in front of the colon of a property, and whether it has the mark of an optional one. -/
def Signature.readLabel (label : List Char) : String × Bool :=
  match label.dropSuffix? ['?'] with
  | some name => (String.ofList name, true)
  | none => (String.ofList label, false)

/-- The signature on a line of the form `name?: type;`, where the mark is for optional properties. -/
def Signature.ofLine? (line : List Char) : Option Signature :=
  let (name, isOptional) := readLabel (line.takeWhile (· ≠ ':'))
  ((line.dropWhile (· ≠ ':')).dropPrefix? [':', ' ']).bind fun typed =>
    (typed.dropSuffix? [';']).map fun type => ⟨name, isOptional, String.ofList type⟩

namespace Property

/-- The properties on the lines of a class body, after some decorators of the first one. -/
def readAll? (decorators : List String) : List (List Char) → Option (List Property)
  | [] => if decorators.isEmpty then some [] else none
  | line :: lines =>
    match line.dropWhile (· = ' ') with
    | [] => if decorators.isEmpty then readAll? [] lines else none
    | '@' :: decorator => readAll? (decorators ++ [String.ofList decorator]) lines
    | declaration =>
      (Signature.ofLine? declaration).bind fun signature =>
        (readAll? [] lines).map (⟨decorators, signature⟩ :: ·)

/-- The lines between the one that opens the class of a text and the one that closes it. -/
def bodyOf (text : String) : List (List Char) :=
  ((lines text.toList).dropWhile fun line => !"export class ".toList.isPrefixOf line).tail.takeWhile
    (· ≠ ['}'])

def ofText? (text : String) : Option (List Property) :=
  readAll? [] (bodyOf text)

/-- A field as a property of a class, with its checks and its documentation where they are asked for. -/
def ofField (checked documented : Bool) (field : Field) : Property where
  decorators := (if checked then field.checks else []) ++ (if documented then [field.exposure] else [])
  signature := ⟨field.name, field.isOptional, field.tsType⟩

end Property

/-! ### Lines of a class -/

theorem unindented_render {line : CodeLine} (start : StartsOutside (fun c => decide (c = ' ')) line.text.toList)
    (width : Nat) : (line.render width).toList.dropWhile (· = ' ') = line.text.toList := by
  rw [CodeLine.render, String.toList_append, String.toList_ofList]
  refine dropWhile_run (fun c member => ?_) start
  simpa using List.eq_of_mem_replicate member

namespace Property

variable {width : Nat} {decorators : List String} {rest : List (List Char)}

theorem readAll?_blank : readAll? [] ((CodeLine.blank.render width).toList :: rest) = readAll? [] rest := by
  rw [Imports.render_blank]
  rfl

theorem readAll?_decoratorLine (decorator : String) :
    readAll? decorators (((decoratorLine decorator).render width).toList :: rest) =
      readAll? (decorators ++ [decorator]) rest := by
  have text : (decoratorLine decorator).text.toList = '@' :: decorator.toList := by
    simp [decoratorLine]
  have unindented : ((decoratorLine decorator).render width).toList.dropWhile (· = ' ') =
      '@' :: decorator.toList := by
    rw [unindented_render (by rw [text]; rintro _ ⟨⟩; rfl), text]
  rw [readAll?]
  split
  · rename_i blank
    rw [unindented] at blank
    cases blank
  · rename_i written same
    rw [unindented] at same
    cases same
    rw [String.ofList_toList]
  · rename_i other
    exact absurd unindented (other _)

theorem readAll?_decoratorLines (added : List String) :
    readAll? decorators (added.map (fun decorator => ((decoratorLine decorator).render width).toList) ++ rest) =
      readAll? (decorators ++ added) rest := by
  induction added generalizing decorators with
  | nil => rw [List.map_nil, List.nil_append, List.append_nil]
  | cons decorator added ih =>
    rw [List.map_cons, List.cons_append, readAll?_decoratorLine, ih, List.append_assoc,
      List.singleton_append]

end Property

/-! ### Properties of fields -/

section
variable {field : Field} (identifier : Naming.isPlainIdentifier field.name.toList = true)
include identifier

theorem lacks_of_isPlainIdentifier {c : Char} (outside : Naming.continuesIdentifier c = false) :
    Lacks c field.name := by
  intro member
  rw [Naming.continues_of_isPlainIdentifier identifier c member] at outside
  cases outside

theorem readLabel_written :
    Signature.readLabel (field.name ++ field.optionalMark).toList = (field.name, field.isOptional) := by
  have question : Lacks '?' field.name := lacks_of_isPlainIdentifier identifier (by decide)
  rw [Signature.readLabel, Field.optionalMark, String.toList_append]
  cases field.isOptional with
  | true =>
    have stripped : (field.name.toList ++ ['?']).dropSuffix? ['?'] = some field.name.toList :=
      List.dropSuffix?_eq_some_iff.mpr ⟨_, rfl, beq_self_eq_true _⟩
    simp [stripped]
  | false =>
    have kept : field.name.toList.dropSuffix? ['?'] = none := by
      rw [Option.eq_none_iff_forall_ne_some]
      intro front stripped
      obtain ⟨mark, split, same⟩ := List.dropSuffix?_eq_some_iff.mp stripped
      obtain rfl := eq_of_beq same
      exact question (by simp [split])
    simp [kept]

theorem ofLine?_written :
    Signature.ofLine? (field.name ++ field.optionalMark ++ ": " ++ field.tsType ++ ";").toList =
      some ⟨field.name, field.isOptional, field.tsType⟩ := by
  have label : ∀ c ∈ (field.name ++ field.optionalMark).toList, decide (c ≠ ':') = true := by
    have mark : Lacks ':' field.optionalMark := by
      unfold Field.optionalMark
      split <;> decide
    intro c member
    rw [decide_eq_true_eq]
    rintro rfl
    exact lacks_append.mpr ⟨lacks_of_isPlainIdentifier identifier (by decide), mark⟩ member
  have stop : StartsOutside (fun c => decide (c ≠ ':')) ([':', ' '] ++ (field.tsType.toList ++ [';'])) := by
    rintro _ ⟨⟩
    rfl
  have parted : (field.name ++ field.optionalMark ++ ": " ++ field.tsType ++ ";").toList =
      (field.name ++ field.optionalMark).toList ++ ([':', ' '] ++ (field.tsType.toList ++ [';'])) := by
    simp
  have typed : ([':', ' '] ++ (field.tsType.toList ++ [';'])).dropPrefix? [':', ' '] =
      some (field.tsType.toList ++ [';']) :=
    List.dropPrefix?_append_of_beq _ (beq_self_eq_true _)
  have closed : (field.tsType.toList ++ [';']).dropSuffix? [';'] = some field.tsType.toList :=
    List.dropSuffix?_eq_some_iff.mpr ⟨_, rfl, beq_self_eq_true _⟩
  rw [Signature.ofLine?, parted, takeWhile_run label stop, dropWhile_run label stop,
    readLabel_written identifier]
  simp only [typed, Option.bind_some, closed, Option.map_some, String.ofList_toList]

namespace Property

variable {width : Nat} {rest : List (List Char)}

theorem readAll?_signatureLine (decorators : List String) :
    readAll? decorators (((CodeLine.mk 1 (field.name ++ field.optionalMark ++ ": " ++ field.tsType ++ ";")).render
        width).toList :: rest) =
      (readAll? [] rest).map (⟨decorators, field.name, field.isOptional, field.tsType⟩ :: ·) := by
  obtain ⟨first, others, name⟩ : ∃ first others, field.name.toList = first :: others := by
    apply List.exists_cons_of_ne_nil
    rw [Ne, String.toList_eq_nil_iff]
    exact Naming.ne_empty_of_isPlainIdentifier identifier
  have starts : Naming.continuesIdentifier first = true :=
    Naming.continues_of_isPlainIdentifier identifier first (by simp [name])
  have text : (field.name ++ field.optionalMark ++ ": " ++ field.tsType ++ ";").toList =
      first :: (others ++ (field.optionalMark ++ ": " ++ field.tsType ++ ";").toList) := by
    simp [name]
  have unindented : ((CodeLine.mk 1 (field.name ++ field.optionalMark ++ ": " ++ field.tsType ++ ";")).render
      width).toList.dropWhile (· = ' ') =
        (field.name ++ field.optionalMark ++ ": " ++ field.tsType ++ ";").toList := by
    apply unindented_render
    intro c given
    rw [text] at given
    cases given
    rw [decide_eq_false_iff_not]
    rintro rfl
    exact absurd starts (by decide)
  rw [readAll?]
  split
  · rename_i blank
    rw [unindented, text] at blank
    cases blank
  · rename_i decorator
    rw [unindented, text] at decorator
    cases decorator
    exact absurd starts (by decide)
  · rw [unindented, ofLine?_written identifier]
    rfl

theorem readAll?_propertyLines (checked documented : Bool) :
    readAll? [] ((field.propertyLines checked documented).map (fun line => (line.render width).toList)
        ++ rest) =
      (readAll? [] rest).map (ofField checked documented field :: ·) := by
  have lines : field.propertyLines checked documented =
      (ofField checked documented field).decorators.map decoratorLine ++
        [⟨1, field.name ++ field.optionalMark ++ ": " ++ field.tsType ++ ";"⟩] := by
    cases checked <;> cases documented <;> simp [Field.propertyLines, ofField]
  rw [lines, List.map_append, List.map_map, List.append_assoc, List.map_singleton, List.singleton_append]
  exact (readAll?_decoratorLines _).trans (readAll?_signatureLine identifier _)

end Property

end

section
variable {fields : List Field}
  (identifiers : ∀ field ∈ fields, Naming.isPlainIdentifier field.name.toList = true)
include identifiers

-- Reading a class body by its properties, with what separates each from the next.
theorem Property.readAll?_classBody (checked documented : Bool) (width : Nat) :
    readAll? [] ((classBody fields checked documented).map fun line => (line.render width).toList) =
      some (fields.map (ofField checked documented)) := by
  induction fields with
  | nil => rfl
  | cons field fields ih =>
    obtain ⟨identifier, others⟩ := List.forall_mem_cons.mp identifiers
    have read := ih others
    cases fields with
    | nil =>
      rw [classBody_singleton, ← List.append_nil (List.map _ _), readAll?_propertyLines identifier]
      rfl
    | cons second fields =>
      rw [classBody_cons_cons, List.map_append, readAll?_propertyLines identifier, List.map_cons,
        readAll?_blank, read]
      rfl

end

/-! ### Properties of a text -/

theorem render_ne_closing {fields : List Field} {checked documented : Bool} {line : CodeLine}
    (member : line ∈ classBody fields checked documented) (width : Nat) :
    (line.render width).toList ≠ ['}'] := by
  intro closing
  -- Every line of a property has a sign that the closing brace has not.
  have only : ∀ c ∈ line.text.toList, c = '}' := by
    intro c inside
    have rendered : c ∈ (line.render width).toList := by
      rw [CodeLine.render, String.toList_append]
      exact List.mem_append_right _ inside
    rwa [closing, List.mem_singleton] at rendered
  rcases exists_field_of_mem_classBody member with rfl | ⟨field, -, lineMember⟩
  · rw [Imports.render_blank] at closing
    cases closing
  · have signed : '@' ∈ line.text.toList ∨ ':' ∈ line.text.toList := by
      rcases Field.cases_of_mem_propertyLines lineMember with ⟨check, -, rfl⟩ | rfl | rfl
      · exact .inl (by simp [decoratorLine])
      · exact .inl (by simp [decoratorLine])
      · exact .inr (by simp)
    rcases signed with sign | sign
    · exact absurd (only _ sign) (by decide)
    · exact absurd (only _ sign) (by decide)

theorem Property.bodyOf_classLines {imports : Imports} (unbroken : imports.Unbroken) {name : String}
    (nameUnbroken : Lacks '\n' name) {fields : List Field} (writable : ∀ field ∈ fields, field.Writable)
    (checked documented : Bool) (width : Nat) :
    bodyOf (CodeLine.renderAll width (imports.codeBlock ++ classLines name fields checked documented)) =
      (classBody fields checked documented).map fun line => (line.render width).toList := by
  have isBody := isBody_classLines nameUnbroken writable checked documented
  have inHead : ∀ line ∈ imports.codeBlock.map (fun line => (line.render width).toList),
      (!"export class ".toList.isPrefixOf line) = true := by
    intro line member
    obtain ⟨codeLine, codeMember, rfl⟩ := List.mem_map.mp member
    rcases Imports.eq_of_mem_codeBlock codeMember with ⟨entry, -, rfl⟩ | rfl
    · rw [CodeLine.render_zero, toList_importLine]
      rfl
    · rw [Imports.render_blank]
      rfl
  have opening : StartsOutside (fun line => !"export class ".toList.isPrefixOf line)
      (((classLines name fields checked documented).map fun line => (line.render width).toList) ++ [[]]) := by
    have starts : "export class ".toList <+: ("export class " ++ name ++ " \x7b").toList := by
      rw [String.append_assoc, String.toList_append]
      exact List.prefix_append _ _
    rintro _ ⟨⟩
    change (!"export class ".toList.isPrefixOf (CodeLine.render width ⟨0, _⟩).toList) = false
    rw [CodeLine.render_zero, Bool.not_eq_false', List.isPrefixOf_iff_prefix]
    exact starts
  have inBody : ∀ line ∈ (classBody fields checked documented).map (fun line => (line.render width).toList),
      decide (line ≠ ['}']) = true := by
    intro line member
    obtain ⟨codeLine, codeMember, rfl⟩ := List.mem_map.mp member
    exact decide_eq_true (render_ne_closing codeMember width)
  have closing : StartsOutside (fun line => decide (line ≠ ['}'])) [['}'], []] := by
    rintro _ ⟨⟩
    rfl
  have body : (((classLines name fields checked documented).map
      fun line : CodeLine => (line.render width).toList) ++ [[]]).tail =
        (classBody fields checked documented).map (fun line => (line.render width).toList)
          ++ [['}'], []] := by
    have last : (CodeLine.render width ⟨0, "\x7d"⟩).toList = ['}'] := by
      rw [CodeLine.render_zero]
      rfl
    simp [classLines, last]
  rw [bodyOf, Imports.lines_renderAll_codeBlock isBody (classLines_ne_nil _ _ _ _) unbroken,
    List.map_append, List.append_assoc, dropWhile_run inHead opening, body, takeWhile_run inBody closing]

theorem Property.ofText?_propertyClass {settings : Settings} (enums : Lacks '\n' settings.enumImport)
    {name : String} (nameUnbroken : Lacks '\n' name) {fields : List Field}
    (writable : ∀ field ∈ fields, field.Writable)
    (identifiers : ∀ field ∈ fields, Naming.isPlainIdentifier field.name.toList = true) (checked : Bool)
    (width : Nat) :
    ofText? (CodeLine.renderAll width (propertyClass settings name fields checked)) =
      some (fields.map (ofField checked settings.enableSwagger)) := by
  have unbroken : (Imports.ofList (propertyImports settings fields checked)).Unbroken :=
    fun entry member => unbroken_propertyImports writable checked enums entry
      (Imports.mem_of_mem_ofList member)
  rw [ofText?, propertyClass, bodyOf_classLines unbroken nameUnbroken writable,
    readAll?_classBody identifiers]

namespace CodeWriter

/-- The text of an entity gives all fields of its model back, in their order and each with nothing but
its documentation in front; that of a create request gives the fields that are not excluded, with their
checks and then their documentation. So a create request has the properties of the entity but those
that are excluded. -/
theorem properties_read_back {text : String} {source : Option String} {model : Model}
    (member : model ∈ (Schema.ofText text source).models) {writer : CodeWriter}
    (enums : Lacks '\n' writer.settings.enumImport) :
    Property.ofText? (writer.artifact .entity model) =
        some (model.fields.map fun field =>
          { decorators := if writer.settings.enableSwagger then [field.exposure] else []
            signature := ⟨field.name, field.isOptional, field.tsType⟩ }) ∧
      Property.ofText? (writer.artifact .createDto model) =
        some ((model.fields.filter fun field => field.name ∉ writer.settings.excludedFields).map
          fun field =>
            { decorators :=
                field.checks ++ if writer.settings.enableSwagger then [field.exposure] else []
              signature := ⟨field.name, field.isOptional, field.tsType⟩ }) ∧
      ∃ ofEntity ofCreateDto, Property.ofText? (writer.artifact .entity model) = some ofEntity ∧
        Property.ofText? (writer.artifact .createDto model) = some ofCreateDto ∧
        ofCreateDto.map Property.signature =
          (ofEntity.map Property.signature).filter (·.name ∉ writer.settings.excludedFields) := by
  have writable := Schema.writable_of_mem_models member
  have named := writable.name.lacks (c := '\n') (by decide)
  have identifiers : ∀ field ∈ model.fields, Naming.isPlainIdentifier field.name.toList = true := by
    intro field inside
    obtain ⟨name, type, identifier, rfl⟩ := Schema.typed_of_mem_models member field inside
    exact identifier
  have entity : Property.ofText? (writer.artifact .entity model) =
      some (model.fields.map (Property.ofField false writer.settings.enableSwagger)) := by
    rw [artifact, ArtifactKind.lines, entityLines_eq_propertyClass]
    exact Property.ofText?_propertyClass enums (ArtifactKind.lacks_className named (by decide) .entity)
      writable.fields identifiers false _
  have createDto : Property.ofText? (writer.artifact .createDto model) =
      some ((model.dtoFields writer.settings.excludedFields).map
        (Property.ofField true writer.settings.enableSwagger)) := by
    rw [artifact, ArtifactKind.lines, createDtoLines_eq_propertyClass]
    exact Property.ofText?_propertyClass enums (ArtifactKind.lacks_className named (by decide) .createDto)
      (Model.writable_of_mem_dtoFields writable _)
      (fun field inside => identifiers field (List.mem_filter.mp inside).1) true _
  have kept : model.dtoFields writer.settings.excludedFields =
      model.fields.filter fun field => field.name ∉ writer.settings.excludedFields :=
    List.filter_congr fun field _ => by simp
  refine ⟨entity, ?_, _, _, entity, createDto, ?_⟩
  · rw [createDto, kept]
    rfl
  · rw [kept, List.map_map, List.map_map, List.filter_map]
    rfl

/-- Two fields of one name, a list of an enumeration and a type with a comma, one other field excluded. -/
theorem properties_read_back_duplicate :
    let text := "enum Role \x7b\n A\n\x7d\nmodel User \x7b\n id Int\n tag Json?\n tag Role[]\n\x7d"
    let schema := Schema.ofText text none
    let writer := ofSettings { excludedFields := ["id"] }
    Lacks '\n' writer.settings.enumImport ∧
      ∃ model ∈ schema.models, Property.ofText? (writer.artifact .createDto model) = some
        [{ decorators := ["IsOptional()", "IsObject()", "ApiPropertyOptional()"]
           signature := ⟨"tag", true, "Record<string, any>"⟩ },
         { decorators :=
             ["IsEnum(Role)", "IsArray()", "ApiProperty(\x7b enum: Role, isArray: true \x7d)"]
           signature := ⟨"tag", false, "Role[]"⟩ }] := by
  intro text schema writer
  have enums : Lacks '\n' writer.settings.enumImport := by decide
  obtain ⟨model, member, given⟩ : ∃ model ∈ schema.models,
      (model.fields.filter fun field => field.name ∉ ["id"]).map (fun field =>
        { decorators := field.checks ++ [field.exposure]
          signature := ⟨field.name, field.isOptional, field.tsType⟩ : Property }) =
        [{ decorators := ["IsOptional()", "IsObject()", "ApiPropertyOptional()"]
           signature := ⟨"tag", true, "Record<string, any>"⟩ },
         { decorators :=
             ["IsEnum(Role)", "IsArray()", "ApiProperty(\x7b enum: Role, isArray: true \x7d)"]
           signature := ⟨"tag", false, "Role[]"⟩ }] := by decide +kernel
  obtain ⟨-, createDto, -⟩ := properties_read_back member enums
  exact ⟨enums, model, member, createDto.trans (congrArg some given)⟩

end CodeWriter

end PrismaNest
