import PrismaNest.Proofs.Blocks.Scan
import PrismaNest.Proofs.Entries
import PrismaNest.Proofs.Schema.Fields
import PrismaNest.Proofs.Text.Absence

/-! Names that a schema has when it is read from a text.

Blocks are named by words, and whatever a field is written with comes from tokens, which hold
no blanks. So names can stand in paths and between quotes, and no line of generated code is
broken by what the schema gives.
-/

set_option autoImplicit false

namespace PrismaNest

open Text

/-- A text that is a word. -/
structure IsWord (text : String) : Prop where
  nonempty : text ≠ ""
  word : ∀ c ∈ text.toList, isWordChar c = true

theorem isWord_iff {text : String} : IsWord text ↔ text ≠ "" ∧ text.toList.all isWordChar = true :=
  ⟨fun isWord => ⟨isWord.nonempty, List.all_eq_true.mpr isWord.word⟩,
    fun both => ⟨both.1, List.all_eq_true.mp both.2⟩⟩

instance (text : String) : Decidable (IsWord text) :=
  decidable_of_iff _ isWord_iff.symm

theorem IsWord.append {text other : String} (isWord : IsWord text)
    (more : ∀ c ∈ other.toList, isWordChar c = true) : IsWord (text ++ other) := by
  refine ⟨fun empty => isWord.nonempty (String.append_eq_empty_iff.mp empty).1, ?_⟩
  rw [String.toList_append, List.forall_mem_append]
  exact ⟨isWord.word, more⟩

theorem IsWord.lacks {text : String} (isWord : IsWord text) {c : Char}
    (sign : isWordChar c = false) : Lacks c text := by
  intro member
  rw [isWord.word c member] at sign
  cases sign

/-- A field that can be written without a line feed, its enumeration also between quotes. -/
structure Field.Writable (field : Field) : Prop where
  name : Lacks '\n' field.name
  tsType : Lacks '\n' field.tsType
  checks : ∀ check ∈ field.checks, Lacks '\n' check
  exposure : Lacks '\n' field.exposure
  enumName : field.isEnum = true → IsWord field.baseType

/-- A field that has an identifier for its name, and all else from a type. -/
def Field.Typed (enumNames : List String) (field : Field) : Prop :=
  ∃ name type, Naming.isPlainIdentifier name.toList = true ∧ field = Field.ofType enumNames name type

structure Model.Writable (model : Model) : Prop where
  name : IsWord model.name
  fields : ∀ field ∈ model.fields, field.Writable

namespace Block

theorem isWord_of_mem_extractFrom {keyword text : List Char} {insideWord : Bool} {block : Block}
    (member : block ∈ extractFrom keyword insideWord text) : IsWord (String.ofList block.name) := by
  fun_induction extractFrom keyword insideWord text with
  | case1 => cases member
  | case2 insideWord c after first rest found ih =>
    rcases List.mem_cons.mp member with rfl | member
    · have read : read? keyword (c :: after) = some (block, rest) := by
        split at found
        · cases found
        · exact found
      obtain ⟨header, named, -⟩ := read?_eq_some_iff.mp read
      rw [← named]
      refine ⟨fun empty => header.name_ne_nil (String.ofList_eq_empty_iff.mp empty), ?_⟩
      rw [String.toList_ofList]
      exact header.name_word
    · exact ih member
  | case3 insideWord c after missed ih => exact ih member

end Block

theorem withoutBrackets_sublist (text : List Char) : (withoutBrackets text).Sublist text := by
  fun_induction withoutBrackets text with
  | case1 => exact .slnil
  | case2 rest ih => exact .cons _ (.cons _ ih)
  | case3 c rest _ ih => exact .cons_cons c ih

theorem ScalarType.ofToken_mem (token : String) : ofToken token ∈ openObject :: table.map Prod.snd := by
  unfold ofToken ofToken?
  cases found : table.lookup token with
  | none => exact List.mem_cons_self
  | some scalar =>
    have listed := List.mem_map_of_mem (f := Prod.snd) (mem_of_lookup_eq_some found)
    exact List.mem_cons_of_mem _ listed

theorem ScalarType.lacks_break (token : String) :
    Lacks '\n' (ofToken token).tsType ∧ Lacks '\n' (ofToken token).check := by
  have inTable : ∀ scalar ∈ openObject :: table.map Prod.snd,
      Lacks '\n' scalar.tsType ∧ Lacks '\n' scalar.check := by decide
  exact inTable _ (ofToken_mem token)

theorem lacks_exposureFor (isOptional isArray : Bool) {enumName : Option String}
    (unbroken : ∀ name ∈ enumName, Lacks '\n' name) :
    Lacks '\n' (exposureFor isOptional isArray enumName) := by
  have decorator : Lacks '\n' (if isOptional then "ApiPropertyOptional" else "ApiProperty") := by
    cases isOptional <;> decide
  have options : ∀ option ∈ (enumName.map ("enum: " ++ ·)).toList ++
      (if isArray then ["isArray: true"] else []), Lacks '\n' option := by
    intro option member
    rcases List.mem_append.mp member with named | array
    · cases enumName with
      | none => cases named
      | some name =>
        rw [List.mem_singleton.mp named, lacks_append]
        exact ⟨by decide, unbroken name rfl⟩
    · cases isArray with
      | false => cases array
      | true =>
        rw [List.mem_singleton.mp array]
        decide
  unfold exposureFor
  dsimp only
  generalize (if isOptional then "ApiPropertyOptional" else "ApiProperty") = name at decorator ⊢
  generalize (enumName.map ("enum: " ++ ·)).toList ++ (if isArray then ["isArray: true"] else []) = all
    at options ⊢
  split
  · rw [lacks_append]
    exact ⟨decorator, by decide⟩
  · rw [lacks_append, lacks_append, lacks_append]
    exact ⟨⟨⟨decorator, by decide⟩, lacks_intercalate (by decide) options⟩, by decide⟩

theorem Field.writable_ofType {enumNames : List String} (words : ∀ name ∈ enumNames, IsWord name)
    {name : String} {type : TypeToken} (nameUnbroken : Lacks '\n' name)
    (baseUnbroken : '\n' ∉ type.base) : (Field.ofType enumNames name type).Writable := by
  have base : Lacks '\n' (String.ofList type.base) := lacks_ofList.mpr baseUnbroken
  obtain ⟨tsType, check⟩ := ScalarType.lacks_break (String.ofList type.base)
  refine ⟨nameUnbroken, ?_, ?_, ?_, ?_⟩
  · have chosen : Lacks '\n' (if enumNames.contains (String.ofList type.base) then
        String.ofList type.base else (ScalarType.ofToken (String.ofList type.base)).tsType) := by
      split
      · exact base
      · exact tsType
    simp only [ofType]
    split
    · rw [lacks_append]
      exact ⟨chosen, by decide⟩
    · exact chosen
  · have kind : Lacks '\n' (if enumNames.contains (String.ofList type.base) then
        "IsEnum(" ++ String.ofList type.base ++ ")"
        else (ScalarType.ofToken (String.ofList type.base)).check ++ "()") := by
      split
      · rw [lacks_append, lacks_append]
        exact ⟨⟨by decide, base⟩, by decide⟩
      · rw [lacks_append]
        exact ⟨check, by decide⟩
    intro written member
    simp only [ofType, List.mem_append, List.mem_singleton] at member
    rcases member with (optional | rfl) | array
    · split at optional
      · rw [List.mem_singleton.mp optional]
        decide
      · cases optional
    · exact kind
    · split at array
      · rw [List.mem_singleton.mp array]
        decide
      · cases array
  · apply lacks_exposureFor
    intro written given
    split at given
    · cases given
      exact base
    · cases given
  · intro declared
    exact words _ (List.contains_iff_mem.mp declared)

namespace Schema

theorem isWord_of_mem_enumsOf {text : List Char} :
    ∀ name ∈ (enumsOf text).map Enumeration.name, IsWord name := by
  intro name member
  obtain ⟨enumeration, enumMember, rfl⟩ := List.mem_map.mp member
  obtain ⟨block, blockMember, rfl⟩ := List.mem_map.mp enumMember
  exact Block.isWord_of_mem_extractFrom blockMember

theorem typed_of_mem_models {text : String} {source : Option String} {model : Model}
    (member : model ∈ (ofText text source).models) :
    ∀ field ∈ model.fields, field.Typed (ofText text source).enumNames := by
  obtain ⟨block, -, rfl⟩ := List.mem_map.mp member
  intro field fieldMember
  obtain ⟨_, token, raw, _, -, identifier, -, rfl⟩ := Model.exists_line_of_mem_ofBody fieldMember
  exact ⟨String.ofList token, TypeToken.ofRaw raw, by rwa [String.toList_ofList], rfl⟩

theorem writable_of_mem_models {text : String} {source : Option String} {model : Model}
    (member : model ∈ (ofText text source).models) : model.Writable := by
  obtain ⟨block, blockMember, rfl⟩ := List.mem_map.mp member
  refine ⟨Block.isWord_of_mem_extractFrom blockMember, ?_⟩
  intro field fieldMember
  obtain ⟨line, name, raw, others, split, -, -, rfl⟩ := Model.exists_line_of_mem_ofBody fieldMember
  have unbroken : ∀ token ∈ tokens line, '\n' ∉ token := by
    intro token tokenMember broken
    exact absurd (not_isBlank_of_mem_tokens tokenMember _ broken) (by decide)
  apply Field.writable_ofType isWord_of_mem_enumsOf
  · exact lacks_ofList.mpr (unbroken name (by simp [split]))
  · intro broken
    have inFilter := (withoutBrackets_sublist _).mem broken
    exact unbroken raw (by simp [split]) (List.mem_filter.mp inFilter).1

end Schema

end PrismaNest
