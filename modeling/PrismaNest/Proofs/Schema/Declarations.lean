import PrismaNest.Proofs.Blocks.Document
import PrismaNest.Proofs.Gathering
import PrismaNest.Proofs.Schema.Fields
import PrismaNest.Proofs.Schema.Names

/-! What a document declares.

Reading a document gives one model for each model section and one enumeration for each
enumeration section, and within a section one field or value for each line that
declares one. Everything else leaves no trace.
-/

set_option autoImplicit false

namespace PrismaNest

open Text

/-- A line declares a field by an identifier and a type token that is more than markers. -/
structure Field.DeclaredBy (line : List Char) (field : Field) : Prop where
  plain : IsPlainLine line
  tokens : [field.name.toList, field.rawType.toList] <+: tokens (trim line)
  identifier : Naming.isPlainIdentifier field.name.toList = true
  typed : withoutBrackets (field.rawType.toList.filter (· ≠ '?')) ≠ []

/-- A line declares an enumeration value by an identifier. -/
structure Enumeration.ValueDeclaredBy (line : List Char) (value : String) : Prop where
  plain : IsPlainLine line
  token : [value.toList] <+: tokens (trim line)
  identifier : Naming.isPlainIdentifier value.toList = true

structure Model.DeclaredBy (part : Block.Section) (model : Model) : Prop where
  keyword : part.keyword = "model".toList
  name : model.name = String.ofList part.name
  fields : Gathers Field.DeclaredBy (lines part.body) model.fields

structure Enumeration.DeclaredBy (part : Block.Section) (enumeration : Enumeration) : Prop where
  keyword : part.keyword = "enum".toList
  name : enumeration.name = String.ofList part.name
  values : Gathers Enumeration.ValueDeclaredBy (lines part.body) enumeration.values

theorem gathers_fields (enumNames : List String) (name : String) (body : List Char) :
    Gathers Field.DeclaredBy (lines body) (Model.ofBody enumNames name body).fields := by
  rw [Model.ofBody_fields]
  apply gathers_filterMap
  · intro line field given
    obtain ⟨trimmed, counted, read⟩ := Option.bind_eq_some_iff.mp given
    obtain ⟨plain, rfl⟩ := plainLine?_eq_some_iff.mp counted
    obtain ⟨token, raw, others, split, identifier, typed, rfl⟩ :=
      Field.ofLine_eq_ok_iff.mp (toOption_eq_some_iff.mp read)
    exact ⟨plain, by simp [split, Field.ofType, TypeToken.ofRaw],
      by simpa [Field.ofType] using identifier,
      by simpa [Field.ofType, TypeToken.ofRaw] using typed⟩
  · rintro line field ⟨plain, ⟨others, split⟩, identifier, typed⟩
    have read : Field.ofLine enumNames (trim line) = .ok _ :=
      Field.ofLine_eq_ok_iff.mpr ⟨_, _, others, split.symm, identifier, typed, rfl⟩
    rw [plainLine?_eq_some_iff.mpr ⟨plain, rfl⟩, Option.bind_some, read]
    simp [Except.toOption]

theorem gathers_values (name : String) (body : List Char) :
    Gathers Enumeration.ValueDeclaredBy (lines body) (Enumeration.ofBody name body).values := by
  rw [Enumeration.ofBody_values]
  apply gathers_filterMap
  · intro line value given
    obtain ⟨trimmed, counted, read⟩ := Option.bind_eq_some_iff.mp given
    obtain ⟨plain, rfl⟩ := plainLine?_eq_some_iff.mp counted
    obtain ⟨token, others, split, identifier, rfl⟩ :=
      enumValue_eq_ok_iff.mp (toOption_eq_some_iff.mp read)
    exact ⟨plain, by simp [split], by simpa using identifier⟩
  · rintro line value ⟨plain, ⟨others, split⟩, identifier⟩
    have read := enumValue_eq_ok_iff.mpr ⟨_, others, split.symm, identifier, rfl⟩
    rw [plainLine?_eq_some_iff.mpr ⟨plain, rfl⟩, Option.bind_some, read]
    simp [Except.toOption]

/-- A section with one blank on either side of its name. -/
def Block.Section.spaced (keyword name body : String) (first : IsWord keyword) (second : IsWord name)
    (clear : Block.Braceless body.toList) : Block.Section where
  keyword := keyword.toList
  gap := [' ']
  name := name.toList
  space := [' ']
  body := body.toList
  gap_blank := List.forall_mem_singleton.mpr (by decide)
  gap_ne_nil := by decide
  name_word := second.word
  name_ne_nil := fun empty => second.nonempty (String.toList_eq_nil_iff.mp empty)
  space_blank := List.forall_mem_singleton.mpr (by decide)
  keyword_word := first.word
  keyword_ne_nil := fun empty => first.nonempty (String.toList_eq_nil_iff.mp empty)
  body_braceless := clear

namespace Document

-- The sections with some keyword, each by what it gives.
theorem gathers_extract {β : Type} {gives : Block.Section → β → Prop} (document : Document)
    {keyword : String} (word : ∀ c ∈ keyword.toList, isWordChar c = true) (named : keyword.toList ≠ [])
    (result : Block → β)
    (sound : ∀ part, part.keyword = keyword.toList → gives part (result part.block))
    (complete : ∀ part other, gives part other → part.keyword = keyword.toList) :
    Gathers gives document.sections ((Block.extract keyword document.text).map result) := by
  rw [Block.extract, document.extractFrom_text word named, List.map_map, ← List.filterMap_eq_map,
    List.filterMap_filter]
  apply gathers_filterMap
  · intro part given found
    obtain ⟨same, rfl⟩ : part.keyword = keyword.toList ∧ result part.block = given := by
      simpa using found
    exact sound part same
  · intro part other gives
    simp [complete part other gives]

/-- Reading a document gives its models and its enumerations, whole and in order, whatever
stands in the gaps and in the other sections. -/
theorem gathers_ofText (document : Document) (source : Option String) :
    Gathers Model.DeclaredBy document.sections
        (Schema.ofText (String.ofList document.text) source).models ∧
      Gathers Enumeration.DeclaredBy document.sections
        (Schema.ofText (String.ofList document.text) source).enums := by
  simp only [Schema.ofText, Schema.enumsOf, Block.models, Block.enums, String.toList_ofList]
  constructor
  · exact document.gathers_extract (List.all_eq_true.mp (by decide)) (by decide) _
      (fun part same => ⟨same, rfl, gathers_fields _ _ _⟩) fun part model given => given.keyword
  · exact document.gathers_extract (List.all_eq_true.mp (by decide)) (by decide) _
      (fun part same => ⟨same, rfl, gathers_values _ _⟩) fun part enumeration given => given.keyword

/-- Two models and an enumeration between blocks that are neither and words of no block. -/
def accounts : Document where
  parts := [
    (⟨"// model of users\n".toList, by decide, by decide⟩,
      .spaced "model" "User" "\n  id   Int @id\n  // kept\n  @@map(users)\n  role Role?\n"
        (by decide) (by decide) (by decide)),
    (⟨"\n\n".toList, by decide, by decide⟩,
      .spaced "datasource" "db" "\n  url env\n" (by decide) (by decide) (by decide)),
    (⟨"\n\nenum Empty\n".toList, by decide, by decide⟩,
      .spaced "enum" "Role" "\n  ADMIN @map(admin)\n  // GUEST\n  MEMBER\n"
        (by decide) (by decide) (by decide)),
    (⟨[], by decide, by decide⟩,
      .spaced "model" "Note" "\n  text String[]\n" (by decide) (by decide) (by decide))]
  ending := ⟨"\nmodel Late\n".toList, by decide, by decide⟩

theorem gathers_ofText_accounts :
    let schema := Schema.ofText (String.ofList accounts.text) (some "accounts.prisma")
    (schema.models.map fun model => (model.name, model.fields.map Field.name)) =
        [("User", ["id", "role"]), ("Note", ["text"])] ∧
      (schema.enums.map fun enumeration => (enumeration.name, enumeration.values)) =
        [("Role", ["ADMIN", "MEMBER"])] ∧
      Gathers Model.DeclaredBy accounts.sections schema.models ∧
      Gathers Enumeration.DeclaredBy accounts.sections schema.enums := by
  intro schema
  have read : (schema.models.map fun model => (model.name, model.fields.map Field.name)) =
        [("User", ["id", "role"]), ("Note", ["text"])] ∧
      (schema.enums.map fun enumeration => (enumeration.name, enumeration.values)) =
        [("Role", ["ADMIN", "MEMBER"])] := by
    -- The characters of the text are at hand; writing it down first would have them decoded again.
    simp only [schema, Schema.ofText, Schema.enumsOf, String.toList_ofList]
    decide +kernel
  exact ⟨read.1, read.2, accounts.gathers_ofText _⟩

end Document

end PrismaNest
