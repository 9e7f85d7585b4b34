import PrismaNest.Proofs.Schema.Decorators
import PrismaNest.Proofs.Schema.Records

/-! Schemas as they are read from a text.

What is said of a field in several ways is said alike: its markers, its checks, its type and its
documentation agree, and the checks stand in the order in which they are imported. All names are
as they should be, so that the schema, taken as plain data, is read back as it is.
-/

set_option autoImplicit false

namespace PrismaNest

open Text

/-- A text that is a token: not empty, and without blanks. -/
structure IsToken (text : String) : Prop where
  nonempty : text ≠ ""
  unbroken : ∀ c ∈ text.toList, isBlank c = false

namespace Field

/-- The markers of a field agree with all that is written for it. -/
structure Consistent (enumNames : List String) (field : Field) : Prop where
  name : Naming.isPlainIdentifier field.name.toList = true
  rawType : IsToken field.rawType
  baseType : IsToken field.baseType
  optionalCheck : field.isOptional = true ↔ field.checks.head? = some "IsOptional()"
  optionalExposure : field.isOptional = true ↔ field.exposureName = "ApiPropertyOptional"
  arrayCheck : field.isArray = true ↔ field.checks.getLast? = some "IsArray()"
  arrayType : field.isArray = true ↔ "[]".toList <:+ field.tsType.toList
  arrayExposure : field.isArray = true ↔ "isArray: true".toList <:+: field.exposure.toList
  enumName : field.isEnum = true ↔ field.baseType ∈ enumNames
  enumCheck : field.isEnum = true ↔ "IsEnum(" ++ field.baseType ++ ")" ∈ field.checks
  enumExposure : field.isEnum = true ↔ Lists field.exposure ("enum: " ++ field.baseType)
  checks : ∃ check, decoratorName check ∈ typeCheckNames ∧ field.checks =
    (if field.isOptional then ["IsOptional()"] else []) ++ [check] ++
      (if field.isArray then ["IsArray()"] else [])
  single : field.checks.Nodup
  ordered : field.checkNames.Sublist checkOrder
  filled : field.Filled

end Field

namespace Field

variable {enumNames : List String} {name : String} {type : TypeToken}

/-- The check of a field's type: that of the enumeration, or that of the scalar. -/
def typeCheck (enumNames : List String) (type : TypeToken) : String :=
  if enumNames.contains (String.ofList type.base) then "IsEnum(" ++ String.ofList type.base ++ ")"
  else (ScalarType.ofToken (String.ofList type.base)).check ++ "()"

theorem checks_ofType : (ofType enumNames name type).checks =
    (if type.isOptional then ["IsOptional()"] else []) ++ [typeCheck enumNames type] ++
      (if type.isArray then ["IsArray()"] else []) :=
  rfl

theorem decoratorName_typeCheck (enumNames : List String) (type : TypeToken) :
    decoratorName (typeCheck enumNames type) ∈ typeCheckNames := by
  rw [typeCheck]
  split
  · rw [decoratorName_isEnum]
    decide
  · exact (ScalarType.typeCheck _).1

theorem isEnum_iff_mem_checks : (ofType enumNames name type).isEnum = true ↔
    "IsEnum(" ++ (ofType enumNames name type).baseType ++ ")" ∈ (ofType enumNames name type).checks := by
  constructor
  · intro declared
    have check : typeCheck enumNames type = "IsEnum(" ++ String.ofList type.base ++ ")" :=
      if_pos declared
    rw [checks_ofType, check]
    exact List.mem_append_left _ (List.mem_append_right _ (List.mem_singleton_self _))
  · intro checked
    by_contra undeclared
    have check : typeCheck enumNames type =
        (ScalarType.ofToken (String.ofList type.base)).check ++ "()" := if_neg undeclared
    -- No other check has that name.
    have named := List.mem_map_of_mem (f := decoratorName) checked
    have other := (ScalarType.typeCheck (String.ofList type.base)).2
    rw [decoratorName_isEnum, checks_ofType, check, List.map_append, List.map_append] at named
    simp only [List.mem_append, List.map_singleton, List.mem_singleton] at named
    rcases named with (optional | scalar) | array
    · revert optional
      cases type.isOptional <;> decide
    · exact other scalar.symm
    · revert array
      cases type.isArray <;> decide

theorem tsType_ofType : (ofType enumNames name type).tsType =
    (if enumNames.contains (String.ofList type.base) then String.ofList type.base
      else (ScalarType.ofToken (String.ofList type.base)).tsType) ++
      (if type.isArray then "[]" else "") := by
  simp only [ofType]
  split <;> simp

section
variable (words : ∀ name ∈ enumNames, IsWord name)
include words

theorem tsType_ofType_ne_empty : (ofType enumNames name type).tsType ≠ "" := by
  rw [tsType_ofType]
  intro empty
  have plain := (String.append_eq_empty_iff.mp empty).1
  split at plain
  · rename_i declared
    exact (words _ (List.contains_iff_mem.mp declared)).nonempty plain
  · exact (ScalarType.tsType_plain _).1 plain

theorem isArray_iff_tsType_ofType : type.isArray = true ↔
    "[]".toList <:+ (ofType enumNames name type).tsType.toList := by
  rw [tsType_ofType, String.toList_append]
  cases type.isArray with
  | true => exact ⟨fun _ => List.suffix_append _ _, fun _ => rfl⟩
  | false =>
    refine ⟨fun array => (nomatch array), fun closed => ?_⟩
    rw [if_neg Bool.false_ne_true, String.toList_empty, List.append_nil] at closed
    split at closed
    · rename_i declared
      exact absurd closed (words _ (List.contains_iff_mem.mp declared)).not_brackets_suffix
    · exact absurd closed (ScalarType.tsType_plain _).2

theorem isArray_iff_exposure_ofType : type.isArray = true ↔
    "isArray: true".toList <:+: (ofType enumNames name type).exposure.toList := by
  apply isArray_iff_exposureFor
  intro given declared
  split at declared
  · rename_i known
    cases declared
    exact words _ (List.contains_iff_mem.mp known)
  · cases declared

end

end Field

theorem Naming.ne_empty_of_isPlainIdentifier {name : String}
    (identifier : isPlainIdentifier name.toList = true) : name ≠ "" := by
  rintro rfl
  cases identifier

theorem Naming.continues_of_isPlainIdentifier {token : List Char}
    (identifier : isPlainIdentifier token = true) : ∀ c ∈ token, continuesIdentifier c = true := by
  cases token with
  | nil => exact fun _ member => nomatch member
  | cons c rest =>
    rw [isPlainIdentifier, Bool.and_eq_true, List.all_eq_true] at identifier
    have first : continuesIdentifier c = true := by
      have starts := identifier.1
      simp only [startsIdentifier, continuesIdentifier, Char.isAlphanum, Bool.or_eq_true] at starts ⊢
      exact starts.imp_left .inl
    exact List.forall_mem_cons.mpr ⟨first, identifier.2⟩

theorem Field.consistent_ofType {enumNames : List String} (words : ∀ name ∈ enumNames, IsWord name)
    {name : String} (identifier : Naming.isPlainIdentifier name.toList = true) {type : TypeToken}
    (raw : IsToken (String.ofList type.raw)) (base : IsToken (String.ofList type.base)) :
    (Field.ofType enumNames name type).Consistent enumNames where
  name := identifier
  rawType := raw
  baseType := base
  optionalCheck := isOptional_iff_head (decoratorName_typeCheck enumNames type) checks_ofType
  optionalExposure := by
    have written : (ofType enumNames name type).exposureName = exposureDecorator type.isOptional :=
      decoratorName_exposureFor _
    rw [written]
    change type.isOptional = true ↔ _
    cases type.isOptional <;> decide
  arrayCheck := isArray_iff_getLast (decoratorName_typeCheck enumNames type) checks_ofType
  arrayType := isArray_iff_tsType_ofType words
  arrayExposure := isArray_iff_exposure_ofType words
  enumName := List.contains_iff_mem
  enumCheck := isEnum_iff_mem_checks
  enumExposure := isEnum_iff_lists
  checks := ⟨_, decoratorName_typeCheck enumNames type, checks_ofType⟩
  single := by
    have checks : (ofType enumNames name type).checks = _ := checks_ofType
    have ordered := checkNames_sublist (decoratorName_typeCheck enumNames type) checks
    exact (ordered.nodup (by decide)).of_map
  ordered := checkNames_sublist (decoratorName_typeCheck enumNames type) checks_ofType
  filled := {
    name := Naming.ne_empty_of_isPlainIdentifier identifier
    rawType := raw.nonempty
    baseType := base.nonempty
    tsType := tsType_ofType_ne_empty words
    exposure := exposureFor_ne_empty _ _ _ }

theorem isToken_ofList {token : List Char} (nonempty : token ≠ [])
    (unbroken : ∀ c ∈ token, isBlank c = false) : IsToken (String.ofList token) := by
  refine ⟨fun empty => nonempty (String.ofList_eq_empty_iff.mp empty), ?_⟩
  rw [String.toList_ofList]
  exact unbroken

theorem isToken_of_base_ne_nil {line raw : List Char} (member : raw ∈ tokens line)
    (nonempty : (TypeToken.ofRaw raw).base ≠ []) :
    IsToken (String.ofList raw) ∧ IsToken (String.ofList (TypeToken.ofRaw raw).base) := by
  have part : (TypeToken.ofRaw raw).base.Sublist raw :=
    (withoutBrackets_sublist _).trans List.filter_sublist
  have unbroken := not_isBlank_of_mem_tokens member
  constructor
  · refine isToken_ofList ?_ unbroken
    rintro rfl
    exact nonempty (List.sublist_nil.mp part)
  · exact isToken_ofList nonempty fun c inside => unbroken c (part.mem inside)

namespace Schema

/-- A schema whose names are words and identifiers, whose fields are consistent, and which is
read back from its data, as are all of its models and enumerations. -/
structure Consistent (schema : Schema) : Prop where
  modelNames : ∀ model ∈ schema.models, IsWord model.name
  fields : ∀ model ∈ schema.models, ∀ field ∈ model.fields, field.Consistent schema.enumNames
  enumNames : ∀ enumeration ∈ schema.enums, IsWord enumeration.name
  values : ∀ enumeration ∈ schema.enums, ∀ value ∈ enumeration.values,
    Naming.isPlainIdentifier value.toList = true
  modelData : ∀ model ∈ schema.models, Model.shape.ofValue model.data = .ok model
  enumData : ∀ enumeration ∈ schema.enums,
    Enumeration.shape.ofValue enumeration.data = .ok enumeration
  data : shape.ofValue schema.data = .ok schema

/-- Whatever text a schema is read from, it is consistent. -/
theorem ofText_consistent (text : String) (source : Option String) :
    (ofText text source).Consistent := by
  have modelNames : ∀ model ∈ (ofText text source).models, IsWord model.name :=
    fun model member => (writable_of_mem_models member).name
  have enumNames : ∀ enumeration ∈ (ofText text source).enums, IsWord enumeration.name :=
    fun enumeration member => isWord_of_mem_enumsOf _ (List.mem_map_of_mem member)
  have fields : ∀ model ∈ (ofText text source).models, ∀ field ∈ model.fields,
      field.Consistent (ofText text source).enumNames := by
    intro model member field inside
    obtain ⟨block, -, rfl⟩ := List.mem_map.mp member
    obtain ⟨line, -, read⟩ := List.mem_filterMap.mp inside
    obtain ⟨name, raw, others, split, identifier, nonempty, rfl⟩ :=
      Field.ofLine_eq_ok_iff.mp (toOption_eq_some_iff.mp read)
    have listed : raw ∈ tokens line := by simp [split]
    obtain ⟨rawToken, baseToken⟩ := isToken_of_base_ne_nil listed nonempty
    apply Field.consistent_ofType isWord_of_mem_enumsOf _ rawToken baseToken
    rw [String.toList_ofList]
    exact identifier
  have values : ∀ enumeration ∈ (ofText text source).enums, ∀ value ∈ enumeration.values,
      Naming.isPlainIdentifier value.toList = true := by
    intro enumeration member value inside
    obtain ⟨block, -, rfl⟩ := List.mem_map.mp member
    obtain ⟨line, -, read⟩ := List.mem_filterMap.mp inside
    obtain ⟨token, others, -, identifier, rfl⟩ := enumValue_eq_ok_iff.mp (toOption_eq_some_iff.mp read)
    rw [String.toList_ofList]
    exact identifier
  have modelData : ∀ model ∈ (ofText text source).models, Model.shape.ofValue model.data = .ok model :=
    fun model member => Model.ofValue_data (modelNames model member).nonempty
      fun field inside => (fields model member field inside).filled
  have enumData : ∀ enumeration ∈ (ofText text source).enums,
      Enumeration.shape.ofValue enumeration.data = .ok enumeration :=
    fun enumeration member => Enumeration.ofValue_data (enumNames enumeration member).nonempty
  exact ⟨modelNames, fields, enumNames, values, modelData, enumData, ofValue_data modelData enumData⟩

end Schema

end PrismaNest
