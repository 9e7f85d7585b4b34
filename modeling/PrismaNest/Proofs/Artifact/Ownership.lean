import Mathlib.Data.List.Induction
import PrismaNest.Artifact.FileSet
import PrismaNest.Proofs.Artifact.Placement
import PrismaNest.Proofs.Entries

/-! Who owns the files of a run.

Models whose names differ only in case share a folder. The model that comes last there owns
it: all seven artifacts in it are its own, so no file of one model is left beside files of
another. The paths of a run are those of the seven artifacts in each folder, once each, and
that of the base query.
-/

set_option autoImplicit false

namespace PrismaNest

open Text

/-- The model that comes last among those that share its folder. -/
def ComesLast (models : List Model) (owner : Model) : Prop :=
  ∃ before after, models = before ++ owner :: after ∧
    ∀ later ∈ after, later.folderName ≠ owner.folderName

theorem ComesLast.mem {models : List Model} {owner : Model} (last : ComesLast models owner) :
    owner ∈ models := by
  obtain ⟨before, after, rfl, -⟩ := last
  simp

theorem exists_comesLast {models : List Model} {folder : String}
    (used : ∃ model ∈ models, model.folderName = folder) :
    ∃ owner, ComesLast models owner ∧ owner.folderName = folder := by
  induction models with
  | nil =>
    obtain ⟨model, member, -⟩ := used
    cases member
  | cons first models ih =>
    by_cases again : ∃ later ∈ models, later.folderName = folder
    · obtain ⟨owner, ⟨before, after, rfl, last⟩, same⟩ := ih again
      exact ⟨owner, ⟨first :: before, after, rfl, last⟩, same⟩
    · obtain ⟨model, member, same⟩ := used
      rcases List.mem_cons.mp member with rfl | later
      · refine ⟨model, ⟨[], models, rfl, fun later inside shared => ?_⟩, same⟩
        exact again ⟨later, inside, shared.trans same⟩
      · exact absurd ⟨model, later, same⟩ again

/-- The folders of some models, each where it first comes. -/
def folders (models : List Model) : List String :=
  (models.map Model.folderName).eraseDups

theorem mem_folders {models : List Model} {folder : String} :
    folder ∈ folders models ↔ ∃ model ∈ models, model.folderName = folder := by
  rw [folders, List.mem_eraseDups, List.mem_map]

theorem folders_concat (models : List Model) (model : Model) :
    folders (models ++ [model]) =
      if model.folderName ∈ folders models then folders models
      else folders models ++ [model.folderName] := by
  rw [folders, List.map_append, List.eraseDups_append, List.map_singleton, List.removeAll,
    List.filter_singleton, ← folders]
  by_cases used : model.folderName ∈ models.map Model.folderName
  · simp [folders, used, -List.mem_map]
  · simp [folders, used, List.eraseDups_cons, -List.mem_map]

namespace CodeWriter

/-- The path that a writer gives an artifact of a model. -/
def pathOf (writer : CodeWriter) (kind : ArtifactKind) (model : Model) : String :=
  kind.path model.folderName writer.settings.fileExtension

/-- The seven paths in a folder. -/
def folderPaths (writer : CodeWriter) (folder : String) : List String :=
  ArtifactKind.all.map fun kind => kind.path folder writer.settings.fileExtension

/-- The path of the base query, if a run over some models writes it. -/
def commonPaths (writer : CodeWriter) (models : List Model) : List String :=
  if models ≠ [] ∧ writer.settings.generateCommon = true then
    [baseQueryPath writer.settings.fileExtension] else []

/-- All artifacts in the folder of a model are its own. -/
def OwnedBy (writer : CodeWriter) (files : FileSet) (model : Model) : Prop :=
  ∀ kind, files.lookup (writer.pathOf kind model) = some (writer.artifact kind model)

/-- The artifacts of some models, those of later models in the place of earlier ones. -/
def artifacts (writer : CodeWriter) (models : List Model) : FileSet :=
  models.foldl (fun current model => putEntries current (writer.modelFiles model)) []

theorem files_eq (writer : CodeWriter) (models : List Model) :
    writer.files models = if models ≠ [] ∧ writer.settings.generateCommon = true then
      putEntry (baseQueryPath writer.settings.fileExtension) writer.baseQuery (writer.artifacts models)
      else writer.artifacts models := by
  unfold files artifacts
  simp

theorem artifacts_concat (writer : CodeWriter) (models : List Model) (model : Model) :
    writer.artifacts (models ++ [model]) =
      putEntries (writer.artifacts models) (writer.modelFiles model) := by
  rw [artifacts, List.foldl_append]
  rfl

theorem mem_modelFiles {writer : CodeWriter} {model : Model} {file : String × String} :
    file ∈ writer.modelFiles model ↔
      ∃ kind, file = (writer.pathOf kind model, writer.artifact kind model) := by
  simp only [modelFiles, List.mem_map, pathOf]
  constructor
  · rintro ⟨kind, -, rfl⟩
    exact ⟨kind, rfl⟩
  · rintro ⟨kind, rfl⟩
    exact ⟨kind, kind.mem_all, rfl⟩

theorem map_fst_modelFiles (writer : CodeWriter) (model : Model) :
    (writer.modelFiles model).map Prod.fst = writer.folderPaths model.folderName := by
  rw [modelFiles, List.map_map]
  rfl

section
variable {writer : CodeWriter}

theorem nodup_modelFiles {model : Model} (label : IsLabel model.folderName) :
    ((writer.modelFiles model).map Prod.fst).Nodup := by
  have kinds : ArtifactKind.all.Nodup := by decide
  rw [map_fst_modelFiles]
  apply kinds.map_on
  intro kind _ second _ same
  exact (ArtifactKind.path_inj label label same).2

-- A path in the folder of one model is no path in another folder.
theorem pathOf_not_mem_modelFiles {owner model : Model} (label : IsLabel owner.folderName)
    (other : IsLabel model.folderName) (apart : model.folderName ≠ owner.folderName)
    (kind : ArtifactKind) : writer.pathOf kind owner ∉ (writer.modelFiles model).map Prod.fst := by
  intro inside
  obtain ⟨file, put, key⟩ := List.mem_map.mp inside
  obtain ⟨second, rfl⟩ := mem_modelFiles.mp put
  exact apart (ArtifactKind.path_inj other label key).1

theorem nodup_files (models : List Model) : ((writer.files models).map Prod.fst).Nodup := by
  have ofModels : ((writer.artifacts models).map Prod.fst).Nodup := by
    induction models using List.reverseRecOn with
    | nil => exact List.nodup_nil
    | append_singleton models model ih =>
      rw [artifacts_concat]
      exact nodup_putEntries ih _
  rw [files_eq]
  split
  · exact nodup_putEntry ofModels _ _
  · exact ofModels

variable {models : List Model} (labels : ∀ model ∈ models, IsLabel model.folderName)
include labels

-- A folder that comes again adds no paths, a new one adds seven.
theorem map_fst_artifacts :
    (writer.artifacts models).map Prod.fst = (folders models).flatMap writer.folderPaths := by
  induction models using List.reverseRecOn with
  | nil => simp [artifacts, folders]
  | append_singleton models model ih =>
    have keys := ih fun other member => labels other (List.mem_append_left _ member)
    have label := labels model (by simp)
    rw [artifacts_concat, folders_concat]
    split
    · rename_i used
      rw [map_fst_putEntries_of_subset, keys]
      intro file put
      have path := List.mem_map_of_mem (f := Prod.fst) put
      rw [map_fst_modelFiles] at path
      rw [keys]
      exact List.mem_flatMap.mpr ⟨_, used, path⟩
    · rename_i unused
      rw [map_fst_putEntries_of_fresh (nodup_modelFiles label), keys, map_fst_modelFiles]
      · simp
      intro file put taken
      rw [keys] at taken
      obtain ⟨folder, listed, path⟩ := List.mem_flatMap.mp taken
      obtain ⟨kind, -, same⟩ := List.mem_map.mp path
      obtain ⟨second, rfl⟩ := mem_modelFiles.mp put
      obtain ⟨other, member, rfl⟩ := mem_folders.mp listed
      have shared := (ArtifactKind.path_inj (labels other (List.mem_append_left _ member)) label same).1
      exact unused (shared ▸ listed)

theorem baseQueryPath_not_mem_artifacts :
    baseQueryPath writer.settings.fileExtension ∉ (writer.artifacts models).map Prod.fst := by
  rw [map_fst_artifacts labels]
  intro taken
  obtain ⟨folder, listed, path⟩ := List.mem_flatMap.mp taken
  obtain ⟨kind, -, same⟩ := List.mem_map.mp path
  obtain ⟨model, member, rfl⟩ := mem_folders.mp listed
  exact path_ne_baseQueryPath (labels model member) _ kind same

theorem map_fst_files : (writer.files models).map Prod.fst =
    (folders models).flatMap writer.folderPaths ++ writer.commonPaths models := by
  rw [files_eq, commonPaths]
  split
  · rw [map_fst_putEntry, if_neg (baseQueryPath_not_mem_artifacts labels), map_fst_artifacts labels]
  · rw [map_fst_artifacts labels, List.append_nil]

-- What comes after the last model of a folder is put elsewhere.
theorem ownedBy_of_comesLast {owner : Model} (last : ComesLast models owner) :
    writer.OwnedBy (writer.files models) owner := by
  have label := labels owner last.mem
  have own : writer.OwnedBy (writer.artifacts models) owner := by
    obtain ⟨before, after, rfl, last⟩ := last
    induction after using List.reverseRecOn with
    | nil =>
      intro kind
      rw [artifacts_concat]
      exact lookup_putEntries_of_mem (nodup_modelFiles label) (mem_modelFiles.mpr ⟨kind, rfl⟩) _
    | append_singleton after later ih =>
      have earlier := ih (fun model member => last model (List.mem_append_left _ member))
        fun model member => labels model (by simp at member ⊢; tauto)
      intro kind
      rw [← List.cons_append, ← List.append_assoc, artifacts_concat, lookup_putEntries_of_not_mem]
      · exact earlier kind
      · exact pathOf_not_mem_modelFiles label (labels later (by simp)) (last later (by simp)) kind
  intro kind
  rw [files_eq]
  split
  · have apart : writer.pathOf kind owner ≠ baseQueryPath writer.settings.fileExtension :=
      path_ne_baseQueryPath label _ kind
    rw [lookup_putEntry, if_neg apart]
    exact own kind
  · exact own kind

theorem exists_owner {model : Model} (member : model ∈ models) :
    ∃ owner ∈ models, owner.folderName = model.folderName ∧
      writer.OwnedBy (writer.files models) owner := by
  obtain ⟨owner, last, same⟩ := exists_comesLast ⟨model, member, rfl⟩
  exact ⟨owner, last.mem, same, ownedBy_of_comesLast labels last⟩

-- A file is the base query or an artifact of the model that owns its folder.
theorem eq_of_mem_files {file : String × String} (member : file ∈ writer.files models) :
    file = (baseQueryPath writer.settings.fileExtension, writer.baseQuery) ∨
      ∃ owner ∈ models, writer.OwnedBy (writer.files models) owner ∧
        ∃ kind, file = (writer.pathOf kind owner, writer.artifact kind owner) := by
  have found := lookup_eq_some_of_mem (nodup_files models) member
  have placed : file = (baseQueryPath writer.settings.fileExtension, writer.baseQuery) ∨
      file ∈ writer.artifacts models := by
    rw [files_eq] at member
    split at member
    · exact mem_putEntry member
    · exact .inr member
  rcases placed with base | artifact
  · exact .inl base
  · have key := List.mem_map_of_mem (f := Prod.fst) artifact
    rw [map_fst_artifacts labels] at key
    obtain ⟨folder, listed, inside⟩ := List.mem_flatMap.mp key
    obtain ⟨kind, -, path⟩ := List.mem_map.mp inside
    obtain ⟨model, modelMember, rfl⟩ := mem_folders.mp listed
    obtain ⟨owner, ownerMember, same, owned⟩ : ∃ owner ∈ models,
        owner.folderName = model.folderName ∧ writer.OwnedBy (writer.files models) owner :=
      exists_owner labels modelMember
    have own : file.1 = writer.pathOf kind owner := by rw [← path, pathOf, same]
    rw [own, owned kind] at found
    exact .inr ⟨owner, ownerMember, owned, kind, Prod.ext own (Option.some.inj found).symm⟩

end

theorem lookup_baseQuery {writer : CodeWriter} (common : writer.settings.generateCommon = true)
    {models : List Model} (selected : models ≠ []) :
    (writer.files models).lookup (baseQueryPath writer.settings.fileExtension) =
      some writer.baseQuery := by
  rw [files_eq, if_pos ⟨selected, common⟩, lookup_putEntry, if_pos rfl]

end CodeWriter

end PrismaNest
