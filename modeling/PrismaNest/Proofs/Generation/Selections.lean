import PrismaNest.Proofs.Export.Settlement
import PrismaNest.Proofs.Generation.Stages

/-! The files of a selection.

Where no two models share a folder, the files of some models are the artifacts of each of them and
the base query. So what is written for a model does not depend on which others are selected, and
selecting by two lists of names writes what each of them writes.
-/

set_option autoImplicit false

namespace PrismaNest

open Text

theorem comesLast_of_distinct {models : List Model} {model : Model}
    (distinct : (models.map Model.folderName).Nodup) (member : model ∈ models) :
    ComesLast models model := by
  obtain ⟨before, after, rfl⟩ := List.append_of_mem member
  refine ⟨before, after, rfl, fun later inside same => ?_⟩
  rw [List.map_append, List.map_cons] at distinct
  have fresh := (List.nodup_cons.mp distinct.of_append_right).1
  exact fresh (same ▸ List.mem_map_of_mem inside)

namespace CodeWriter

variable {writer : CodeWriter} {models : List Model} {file : String × String}

/-- The base query as a file. -/
def baseQueryFile (writer : CodeWriter) : String × String :=
  (baseQueryPath writer.settings.fileExtension, writer.baseQuery)

section
variable (labels : ∀ model ∈ models, IsLabel model.folderName)
include labels

theorem mem_files_iff (distinct : (models.map Model.folderName).Nodup) :
    file ∈ writer.files models ↔ (∃ model ∈ models, file ∈ writer.modelFiles model) ∨
      models ≠ [] ∧ writer.settings.generateCommon = true ∧ file = writer.baseQueryFile := by
  constructor
  · intro member
    rcases eq_of_mem_files labels member with rfl | ⟨owner, listed, -, kind, rfl⟩
    · refine .inr ?_
      have path := List.mem_map_of_mem (f := Prod.fst) member
      by_cases common : models ≠ [] ∧ writer.settings.generateCommon = true
      · exact ⟨common.1, common.2, rfl⟩
      · rw [files_eq, if_neg common] at path
        exact absurd path (baseQueryPath_not_mem_artifacts labels)
    · exact .inl ⟨owner, listed, mem_modelFiles.mpr ⟨kind, rfl⟩⟩
  · rintro (⟨model, member, put⟩ | ⟨selected, common, rfl⟩)
    · have last := comesLast_of_distinct distinct member
      exact (ownedBy_of_comesLast labels last).mem_files file put
    · exact mem_of_lookup_eq_some (lookup_baseQuery common selected)

-- A file stands in folders without a point in their names, and has a point in its own.
theorem spells_of_mem_files (flat : Lacks '/' writer.settings.fileExtension)
    (member : file ∈ writer.files models) : ∃ folders name, Path.Spells (folders ++ [name]) file.1 ∧
      (∀ folder ∈ folders, Lacks '.' folder) ∧ ¬ Lacks '.' name := by
  rcases eq_of_mem_files labels member with rfl | ⟨owner, listed, -, kind, rfl⟩
  · refine ⟨["common", "dto"], "base-query.dto." ++ writer.settings.fileExtension, ⟨by simp, ?_, ?_⟩,
      by decide, ?_⟩
    · exact isName_of_mem_baseQueryPlace flat
    · exact baseQueryPath_eq _
    · rw [lacks_append, not_and_or]
      exact .inl (by decide)
  · have label := labels owner listed
    refine ⟨owner.folderName :: kind.folders,
      kind.stem owner.folderName ++ "." ++ writer.settings.fileExtension, ⟨by simp, ?_, ?_⟩, ?_, ?_⟩
    · exact kind.isName_of_mem_place label flat
    · exact kind.path_eq _ _
    · intro folder inside
      rcases List.mem_cons.mp inside with rfl | below
      · exact label.lacks (by decide)
      · have plain : ∀ kind : ArtifactKind, ∀ folder ∈ kind.folders, Lacks '.' folder := by
          intro kind
          cases kind <;> decide
        exact plain kind folder below
    · rw [lacks_append, lacks_append, not_and_or, not_and_or]
      exact .inl (.inr (by decide))

theorem separate_files (flat : Lacks '/' writer.settings.fileExtension) :
    (writer.files models).Separate where
  spelled := by
    intro file member
    obtain ⟨folders, name, spelled, -⟩ := spells_of_mem_files labels flat member
    exact ⟨_, spelled⟩
  single := nodup_files models
  apart := by
    intro file member other otherMember names others spelled elsewhere above
    obtain ⟨folders, name, spelledSo, plain, -⟩ := spells_of_mem_files labels flat member
    obtain ⟨otherFolders, otherName, elsewhereSo, -, pointed⟩ :=
      spells_of_mem_files labels flat otherMember
    rw [spelled.unique spelledSo, elsewhere.unique elsewhereSo, List.dropLast_concat] at above
    exact pointed (plain otherName (above.subset (by simp)))

end

end CodeWriter

namespace Generator

variable {generator : Generator} {schema : Schema} {names others : List String} {model : Model}
  {file : String × String}

theorem selection_eq (named : names ≠ []) : generator.selection schema names =
    schema.models.filter fun model => names.contains model.name := by
  rw [selection, Schema.select, if_pos (by simpa using named)]

theorem mem_selection (named : names ≠ []) :
    model ∈ generator.selection schema names ↔ model ∈ schema.models ∧ model.name ∈ names := by
  rw [selection_eq named, List.mem_filter, List.contains_iff_mem]

section
variable (labels : ∀ model ∈ schema.models, IsLabel model.folderName)
  (distinct : (schema.models.map Model.folderName).Nodup)
include labels distinct

theorem mem_filesOf_iff (named : names ≠ []) : file ∈ generator.filesOf schema names ↔
    ∃ model ∈ schema.models, model.name ∈ names ∧ (file ∈ generator.writer.modelFiles model ∨
      generator.settings.generateCommon = true ∧ file = generator.writer.baseQueryFile) := by
  have sublist : (generator.selection schema names).Sublist schema.models := by
    rw [selection_eq named]
    exact List.filter_sublist
  rw [filesOf, CodeWriter.mem_files_iff (fun model member => labels model (sublist.subset member))
    (distinct.sublist (sublist.map _))]
  constructor
  · rintro (⟨model, selected, put⟩ | ⟨selected, common⟩)
    · obtain ⟨member, chosen⟩ := (mem_selection named).mp selected
      exact ⟨model, member, chosen, .inl put⟩
    · obtain ⟨model, listed⟩ := List.exists_mem_of_ne_nil _ selected
      obtain ⟨member, chosen⟩ := (mem_selection named).mp listed
      exact ⟨model, member, chosen, .inr common⟩
  · rintro ⟨model, member, chosen, put⟩
    have selected : model ∈ generator.selection schema names :=
      (mem_selection named).mpr ⟨member, chosen⟩
    rcases put with put | common
    · exact .inl ⟨model, selected, put⟩
    · exact .inr ⟨List.ne_nil_of_mem selected, common⟩

/-- Two lists of names choose together what each of them chooses. -/
theorem mem_filesOf_append (named : names ≠ []) (otherNamed : others ≠ []) :
    file ∈ generator.filesOf schema (names ++ others) ↔
      file ∈ generator.filesOf schema names ∨ file ∈ generator.filesOf schema others := by
  rw [mem_filesOf_iff labels distinct named, mem_filesOf_iff labels distinct otherNamed,
    mem_filesOf_iff labels distinct (by simp [named])]
  simp only [List.mem_append]
  constructor
  · rintro ⟨model, member, chosen | chosen, put⟩
    · exact .inl ⟨model, member, chosen, put⟩
    · exact .inr ⟨model, member, chosen, put⟩
  · rintro (⟨model, member, chosen, put⟩ | ⟨model, member, chosen, put⟩)
    · exact ⟨model, member, .inl chosen, put⟩
    · exact ⟨model, member, .inr chosen, put⟩

-- All that is written for some names would be written for all models.
theorem filesOf_subset (named : names ≠ []) :
    generator.filesOf schema names ⊆ generator.writer.files schema.models := by
  intro file member
  obtain ⟨model, listed, -, put⟩ := (mem_filesOf_iff labels distinct named).mp member
  rw [CodeWriter.mem_files_iff labels distinct]
  rcases put with put | common
  · exact .inl ⟨model, listed, put⟩
  · exact .inr ⟨List.ne_nil_of_mem listed, common⟩

end

end Generator

end PrismaNest
