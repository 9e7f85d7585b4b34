import PrismaNest.Proofs.Artifact.Placement

/-! Which artifacts refer to which.

An artifact names another one of its model by its class and by a module relative to its own
folder. From the folder of the one, the module leads to the path of the other.
-/

set_option autoImplicit false

namespace PrismaNest

open Text

namespace ArtifactKind

/-- The class that an artifact exports. -/
def className (model : Model) : ArtifactKind → String
  | createDto => model.createDtoName
  | updateDto => model.updateDtoName
  | searchDto => model.searchDtoName
  | entity => model.entityName
  | service => model.serviceName
  | controller => model.controllerName
  | wiring => model.wiringName

-- What neither the model's name nor a fixed part of a class name holds, no class name holds.
theorem lacks_className {model : Model} {c : Char} (absent : Lacks c model.name)
    (plain : ∀ kind ∈ all, Lacks c (className ⟨"", []⟩ kind)) (kind : ArtifactKind) :
    Lacks c (kind.className model) := by
  have fixed := plain kind (mem_all kind)
  cases kind <;>
    simp only [className, Model.createDtoName, Model.updateDtoName, Model.searchDtoName,
      Model.entityName, Model.serviceName, Model.controllerName, Model.wiringName,
      lacks_append] at fixed ⊢ <;>
    simp only [fixed, absent, and_self]

theorem isWord_className {model : Model} (word : IsWord model.name) (kind : ArtifactKind) :
    IsWord (kind.className model) := by
  have fixed : ∀ text ∈ ["Create", "Update", "Search", "Dto", "Entity", "Service", "Controller", "Module"],
      IsWord text := by decide +kernel
  have request (lead : String) (listed : lead ∈ ["Create", "Update", "Search"]) :
      IsWord (lead ++ model.name ++ "Dto") :=
    ((fixed lead (List.mem_append_left _ listed)).append word.word).append (fixed "Dto" (by decide)).word
  have suffixed (last : String) (listed : last ∈ ["Entity", "Service", "Controller", "Module"]) :
      IsWord (model.name ++ last) :=
    word.append (fixed last (List.mem_append_right ["Create", "Update", "Search", "Dto"] listed)).word
  cases kind with
  | createDto => exact request "Create" (by decide)
  | updateDto => exact request "Update" (by decide)
  | searchDto => exact request "Search" (by decide)
  | entity => exact suffixed "Entity" (by decide)
  | service => exact suffixed "Service" (by decide)
  | controller => exact suffixed "Controller" (by decide)
  | wiring => exact suffixed "Module" (by decide)

/-- The artifacts of its model that an artifact imports. -/
def uses (settings : Settings) : ArtifactKind → List ArtifactKind
  | createDto | searchDto | entity => []
  | updateDto => [createDto]
  | service => [createDto, updateDto, searchDto]
  | controller =>
    [service, createDto, updateDto, searchDto] ++ (if settings.enableSwagger then [entity] else [])
  | wiring => [controller, service]

/-- The names from the folder of an artifact to another one in it or below it. -/
def way (folder : String) (kind target : ArtifactKind) : List String :=
  "." :: target.folders.drop kind.folders.length ++ [target.stem folder]

/-- How an artifact imports another one of its model. -/
def reference (model : Model) (kind target : ArtifactKind) : String × List String :=
  (String.intercalate "/" (kind.way model.folderName target), [target.className model])

-- What an artifact uses lies in its own folder or below it.
theorem folders_of_mem_uses {settings : Settings} {kind target : ArtifactKind}
    (used : target ∈ kind.uses settings) : kind.folders <+: target.folders := by
  cases kind <;> cases target <;> simp [uses, folders] at used ⊢

end ArtifactKind

/-- The path that an import leads to: from the folder of the importing file along the module,
with the extension of all files. -/
def importTarget (key source extension : String) : String :=
  String.intercalate "/" (FileTree.resolve (Path.ofText key).names.dropLast
    (.ofText (source ++ "." ++ extension)))

section
variable {folder extension : String} (label : IsLabel folder) (flat : Lacks '/' extension)
include label flat

theorem ArtifactKind.ofText_path (kind : ArtifactKind) :
    Path.ofText (kind.path folder extension) = ⟨"", kind.place folder extension⟩ := by
  have names := kind.isName_of_mem_place label flat
  rw [path_eq, place, List.cons_append, Path.ofText_intercalate, Path.filter_names]
  · exact names
  · exact fun name member => (names name member).noSlash
  · exact label.nonempty

-- A module that is a point and further names leads down from the folder of the importing
-- file.
theorem importTarget_down (kind : ArtifactKind) {between : List String} {file : String}
    (betweenNames : ∀ name ∈ between, IsName name) (fileName : IsName (file ++ "." ++ extension)) :
    importTarget (kind.path folder extension) (String.intercalate "/" ("." :: between ++ [file]))
        extension =
      String.intercalate "/" ((folder :: kind.folders) ++ between ++ [file ++ "." ++ extension]) := by
  have names : ∀ name ∈ between ++ [file ++ "." ++ extension], IsName name :=
    List.forall_mem_append.mpr ⟨betweenNames, List.forall_mem_singleton.mpr fileName⟩
  have extended : String.intercalate "/" ("." :: between ++ [file]) ++ "." ++ extension =
      String.intercalate "/" ("." :: (between ++ [file ++ "." ++ extension])) := by
    rw [← List.cons_append, String.intercalate_append_of_ne_nil (List.cons_ne_nil _ _)
      (List.cons_ne_nil _ _), String.intercalate_append_of_ne_nil (List.cons_ne_nil _ _)
      (List.cons_ne_nil _ _), String.intercalate_singleton, String.intercalate_singleton]
    simp only [String.append_assoc]
  have read : Path.ofText (String.intercalate "/" ("." :: between ++ [file]) ++ "." ++ extension) =
      ⟨"", between ++ [file ++ "." ++ extension]⟩ := by
    rw [extended, Path.ofText_intercalate, List.filter_cons_of_neg (by decide), Path.filter_names names]
    · exact List.forall_mem_cons.mpr ⟨by decide, fun name member => (names name member).noSlash⟩
    · decide
  rw [importTarget, read, kind.ofText_path label flat,
    FileTree.resolve_eq_append fun name member => (names name member).noStepBack,
    ArtifactKind.place, List.dropLast_concat, List.append_assoc]

theorem importTarget_reference {model : Model} {settings : Settings} {kind target : ArtifactKind}
    (used : target ∈ kind.uses settings) (same : model.folderName = folder) :
    importTarget (kind.path folder extension) (kind.reference model target).1 extension =
      target.path folder extension := by
  have below : ∀ name ∈ target.folders.drop kind.folders.length, IsName name :=
    fun name member => target.isName_of_mem_folders name (List.mem_of_mem_drop member)
  obtain ⟨between, split⟩ := ArtifactKind.folders_of_mem_uses used
  rw [ArtifactKind.reference, ArtifactKind.way, same,
    importTarget_down label flat kind below (target.isName_file label flat), target.path_eq,
    ArtifactKind.place, ← split, List.drop_left, List.cons_append]

-- The default import path of the base query leads from a search request to the base query.
theorem importTarget_baseQuery :
    importTarget (ArtifactKind.searchDto.path folder extension) "../../common/dto/base-query.dto"
      extension = baseQueryPath extension := by
  have source : "../../common/dto/base-query.dto" ++ "." ++ extension =
      String.intercalate "/" (".." :: ".." :: baseQueryPlace extension) := by
    simp [baseQueryPlace, String.intercalate_cons_cons, ← String.toList_inj]
  have names := isName_of_mem_baseQueryPlace flat
  have read : Path.ofText ("../../common/dto/base-query.dto" ++ "." ++ extension) =
      ⟨"", ".." :: ".." :: baseQueryPlace extension⟩ := by
    rw [source, Path.ofText_intercalate, List.filter_cons_of_pos (by decide),
      List.filter_cons_of_pos (by decide), Path.filter_names names]
    · have proper : ∀ name ∈ baseQueryPlace extension, Lacks '/' name :=
        fun name member => (names name member).noSlash
      exact List.forall_mem_cons.mpr ⟨by decide, List.forall_mem_cons.mpr ⟨by decide, proper⟩⟩
    · decide
  have resolved : FileTree.resolve [folder, "dto"] ⟨"", ".." :: ".." :: baseQueryPlace extension⟩ =
      FileTree.resolve [] ⟨"", baseQueryPlace extension⟩ := by
    rfl
  rw [importTarget, read, ArtifactKind.searchDto.ofText_path label flat]
  change String.intercalate "/" (FileTree.resolve [folder, "dto"] _) = _
  rw [resolved, FileTree.resolve_eq_append fun name member => (names name member).noStepBack,
    List.nil_append, baseQueryPath_eq]

end

end PrismaNest
