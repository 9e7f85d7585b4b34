import PrismaNest.Proofs.Schema.Consistency
import PrismaNest.Proofs.Text.Brackets

/-! The brackets of what a schema gives to write.

Names hold no brackets at all. Types and decorators hold some, for lists and for arguments, and close
what they open.
-/

set_option autoImplicit false

namespace PrismaNest

open Text

theorem IsWord.brackets_eq_nil {text : String} (word : IsWord text) : brackets text = [] :=
  brackets_eq_nil_of_forall (by decide) word.word

theorem Naming.brackets_of_isPlainIdentifier {token : List Char}
    (identifier : isPlainIdentifier token = true) : brackets (String.ofList token) = [] := by
  have inside : ∀ c ∈ (String.ofList token).toList, continuesIdentifier c = true := by
    rw [String.toList_ofList]
    exact continues_of_isPlainIdentifier identifier
  exact brackets_eq_nil_of_forall (by decide) inside

theorem ScalarType.brackets_ofToken (token : String) :
    brackets (ofToken token).tsType = [] ∧ brackets (ofToken token).check = [] := by
  have inTable : ∀ scalar ∈ openObject :: table.map Prod.snd,
      brackets scalar.tsType = [] ∧ brackets scalar.check = [] := by decide
  exact inTable _ (ofToken_mem token)

theorem nested_exposureFor (isOptional isArray : Bool) {enumName : Option String}
    (plain : ∀ name ∈ enumName, brackets name = []) :
    Nested (brackets (exposureFor isOptional isArray enumName)) := by
  cases enumName with
  | none => cases isOptional <;> cases isArray <;> decide
  | some name =>
    have nameless : brackets name = [] := plain name rfl
    cases isOptional <;> cases isArray <;>
      simp [exposureFor, nameless] <;> decide

namespace Field

/-- A field whose name holds no brackets, and that is written in nested parts. -/
structure NestedParts (field : Field) : Prop where
  name : brackets field.name = []
  tsType : Nested (brackets field.tsType)
  checks : ∀ check ∈ field.checks, Nested (brackets check)
  exposure : Nested (brackets field.exposure)

section
variable {enumNames : List String} (words : ∀ name ∈ enumNames, IsWord name) {type : TypeToken}
include words

theorem brackets_base (declared : enumNames.contains (String.ofList type.base) = true) :
    brackets (String.ofList type.base) = [] :=
  (words _ (List.contains_iff_mem.mp declared)).brackets_eq_nil

theorem nested_typeCheck : Nested (brackets (typeCheck enumNames type)) := by
  rw [typeCheck]
  split
  · rename_i declared
    rw [brackets_append, brackets_append, brackets_base words declared]
    decide
  · rw [brackets_append, (ScalarType.brackets_ofToken _).2]
    decide

theorem nested_tsType_ofType {name : String} : Nested (brackets (ofType enumNames name type).tsType) := by
  have marker : Nested (brackets (if type.isArray then "[]" else "")) := by
    cases type.isArray <;> decide
  rw [tsType_ofType, brackets_append]
  split
  · rename_i declared
    rwa [brackets_base words declared]
  · rwa [(ScalarType.brackets_ofToken _).1]

theorem nestedParts_ofType {name : String} (plain : brackets name = []) :
    (ofType enumNames name type).NestedParts where
  name := plain
  tsType := nested_tsType_ofType words
  checks := by
    have optional : ∀ check ∈ (if type.isOptional then ["IsOptional()"] else []),
        Nested (brackets check) := by cases type.isOptional <;> decide
    have array : ∀ check ∈ (if type.isArray then ["IsArray()"] else []),
        Nested (brackets check) := by cases type.isArray <;> decide
    rw [checks_ofType]
    simp only [List.forall_mem_append, List.forall_mem_singleton]
    exact ⟨⟨optional, nested_typeCheck words⟩, array⟩
  exposure := by
    apply nested_exposureFor
    intro given chosen
    split at chosen
    · rename_i declared
      cases chosen
      exact brackets_base words declared
    · cases chosen

end

end Field

theorem Schema.nestedParts_of_mem_models {text : String} {source : Option String} {model : Model}
    (member : model ∈ (ofText text source).models) : ∀ field ∈ model.fields, field.NestedParts := by
  obtain ⟨block, -, rfl⟩ := List.mem_map.mp member
  intro field fieldMember
  obtain ⟨_, name, raw, _, -, identifier, -, rfl⟩ := Model.exists_line_of_mem_ofBody fieldMember
  exact Field.nestedParts_ofType isWord_of_mem_enumsOf
    (Naming.brackets_of_isPlainIdentifier identifier)

end PrismaNest
