import PrismaNest.Proofs.Artifact.Imports
import PrismaNest.Proofs.Artifact.Ownership
import PrismaNest.Proofs.Schema.Names

/-! Generated files refer to generated files.

A file that imports from its own folder imports an artifact of its model, and the model that
wrote the file owns the folder. So the module leads to a file of the run, whichever models
share the folder, and that file exports the class. The same holds for the base query of the
search requests. Extensions with slashes are left out: they lead to further folders, in which
the modules of a file are looked for in vain.
-/

set_option autoImplicit false

namespace PrismaNest

open Text

/-- An import of a file leads to a file with the imported classes. -/
def Resolves (files : FileSet) (extension key source : String) (names : List String) : Prop :=
  ∃ text, files.lookup (importTarget key source extension) = some text ∧
    ∀ name ∈ names, ("export class " ++ name).toList <:+: text.toList

/-- A writer whose settings give import paths out of the folder of a file, and an extension
that belongs to one file name. -/
structure CodeWriter.Linkable (writer : CodeWriter) : Prop where
  indented : 0 < writer.width
  flat : Lacks '/' writer.settings.fileExtension
  quotable : writer.settings.AllQuotable
  outside : ∀ path ∈ writer.settings.importPaths, ¬ "./".toList <+: path.toList

namespace ArtifactKind

theorem exists_export (settings : Settings) (model : Model) (kind : ArtifactKind) :
    ∃ rest, ⟨0, "export class " ++ kind.className model ++ rest⟩ ∈ kind.lines settings model := by
  cases kind with
  | createDto => exact ⟨" \x7b", by simp [lines, Model.createDtoLines, classLines, className]⟩
  | updateDto =>
    refine ⟨" extends PartialType(" ++ model.createDtoName ++ ") \x7b\x7d", ?_⟩
    simp [lines, Model.updateDtoLines, className, String.append_assoc]
  | searchDto =>
    exact ⟨" extends BaseQueryDto \x7b\x7d", by simp [lines, Model.searchDtoLines, className]⟩
  | entity => exact ⟨" \x7b", by simp [lines, Model.entityLines, classLines, className]⟩
  | service => exact ⟨" \x7b", by simp [lines, Model.serviceLines, className]⟩
  | controller => exact ⟨" \x7b", by simp [lines, Model.controllerLines, className]⟩
  | wiring => exact ⟨" \x7b\x7d", by simp [lines, Model.wiringLines, className]⟩

end ArtifactKind

theorem infix_of_export {code : List CodeLine} {name rest : String}
    (member : ⟨0, "export class " ++ name ++ rest⟩ ∈ code) (width : Nat) :
    ("export class " ++ name).toList <:+: (CodeLine.renderAll width code).toList := by
  apply List.IsInfix.trans _ (CodeLine.infix_renderAll member width)
  have written : ("export class " ++ name ++ rest).toList =
      ("export class " ++ name).toList ++ rest.toList := String.toList_append
  rw [written]
  exact (List.prefix_append _ _).isInfix

section
variable {writer : CodeWriter} (linkable : writer.Linkable)
include linkable

-- What an artifact imports comes from outside of its model or is a reference.
theorem importsFrom_artifact {model : Model} (writable : model.Writable) {kind : ArtifactKind}
    {names : List String} {source : String}
    (imported : ImportsFrom (writer.artifact kind model) names source) :
    source ∈ ArtifactKind.packages ++ writer.settings.importPaths ∨
      ∃ target ∈ kind.uses writer.settings, source = (kind.reference model target).1 ∧
        ∀ name ∈ names, name = target.className model := by
  obtain ⟨entry, member, rfl, same⟩ := exists_entry_of_importsFrom
    (kind.fits_lines writable linkable.quotable.guardName.unbroken)
    (kind.allQuotable_imports writable linkable.quotable) (kind.lines_ne_nil _ _)
    linkable.indented imported
  rcases List.mem_append.mp member with outside | referred
  · exact .inl (ArtifactKind.source_of_mem_outsideImports entry outside)
  · obtain ⟨target, used, rfl⟩ := List.mem_map.mp referred
    right
    refine ⟨target, used, rfl, eq_of_mem_of_intercalate ?_ ?_⟩
    · exact ArtifactKind.lacks_className (writable.name.lacks (by decide)) (by decide) target
    · rw [same]
      exact String.intercalate_singleton

theorem importsFrom_baseQuery {names : List String} {source : String}
    (imported : ImportsFrom writer.baseQuery names source) : source ∈ ArtifactKind.packages := by
  obtain ⟨entry, member, rfl, -⟩ := exists_entry_of_importsFrom (fits_baseQueryLines writer.settings)
    (allQuotable_baseQueryImports writer.settings) (by simp [baseQueryLines]) linkable.indented imported
  exact packages_of_mem_baseQueryImports entry member

theorem outside_of_mem {source : String}
    (member : source ∈ ArtifactKind.packages ++ writer.settings.importPaths) :
    ¬ "./".toList <+: source.toList := by
  have packaged : ∀ source ∈ ArtifactKind.packages, ¬ "./".toList <+: source.toList := by decide
  rcases List.mem_append.mp member with package | path
  · exact packaged source package
  · exact linkable.outside source path

variable {models : List Model}

-- Imports from the folder of a file lead to files of the run.
theorem resolves_of_mem_files (writable : ∀ model ∈ models, model.Writable)
    {file : String × String} (member : file ∈ writer.files models) {names : List String} {source : String}
    (imported : ImportsFrom file.2 names source) (here : "./".toList <+: source.toList) :
    Resolves (writer.files models) writer.settings.fileExtension file.1 source names := by
  have labels : ∀ model ∈ models, IsLabel model.folderName := fun model modelMember =>
    (writable model modelMember).isLabel_folderName
  rcases CodeWriter.eq_of_mem_files labels member with rfl | ⟨owner, ownerMember, owned, kind, rfl⟩
  · have package := importsFrom_baseQuery linkable imported
    exact absurd here (outside_of_mem linkable (List.mem_append_left _ package))
  · rcases importsFrom_artifact linkable (writable owner ownerMember) imported with
      outside | ⟨target, used, rfl, classes⟩
    · exact absurd here (outside_of_mem linkable outside)
    · refine ⟨writer.artifact target owner, ?_, ?_⟩
      · rw [CodeWriter.pathOf, importTarget_reference (labels owner ownerMember) linkable.flat used rfl]
        exact owned target
      · intro name nameMember
        obtain ⟨rest, exported⟩ := target.exists_export writer.settings owner
        rw [classes name nameMember]
        exact infix_of_export exported writer.width

-- The search request of a model extends the base query of the run.
theorem resolves_baseQuery (writable : ∀ model ∈ models, model.Writable)
    (default : writer.settings.baseQueryImport = ({} : Settings).baseQueryImport)
    (common : writer.settings.generateCommon = true) {model : Model} (member : model ∈ models) :
    ∃ text, (writer.files models).lookup (writer.pathOf .searchDto model) = some text ∧
      ImportsFrom text ["BaseQueryDto"] writer.settings.baseQueryImport ∧
      Resolves (writer.files models) writer.settings.fileExtension (writer.pathOf .searchDto model)
        writer.settings.baseQueryImport ["BaseQueryDto"] := by
  have labels : ∀ model ∈ models, IsLabel model.folderName := fun model modelMember =>
    (writable model modelMember).isLabel_folderName
  obtain ⟨owner, ownerMember, same, owned⟩ := CodeWriter.exists_owner labels member
  have path : writer.pathOf .searchDto model = writer.pathOf .searchDto owner := by
    rw [CodeWriter.pathOf, CodeWriter.pathOf, same]
  refine ⟨writer.artifact .searchDto owner, ?_, ?_, writer.baseQuery, ?_, ?_⟩
  · rw [path]
    exact owned .searchDto
  · have fits := ArtifactKind.searchDto.fits_lines (writable owner ownerMember)
      linkable.quotable.guardName.unbroken
    have quotable := ArtifactKind.searchDto.allQuotable_imports (writable owner ownerMember) linkable.quotable
    exact importsFrom_of_mem fits quotable List.mem_cons_self writer.width
  · have leads := importTarget_baseQuery (labels model member) linkable.flat
    rw [default, CodeWriter.pathOf, leads]
    exact CodeWriter.lookup_baseQuery common (List.ne_nil_of_mem member)
  · intro name nameMember
    rw [List.mem_singleton.mp nameMember]
    have exported : ⟨0, "export class " ++ "BaseQueryDto" ++ " \x7b"⟩ ∈ baseQueryLines writer.settings := by
      simp [baseQueryLines]
    exact infix_of_export exported writer.width

end

namespace CodeWriter

/-- Whatever models of a schema are selected, a file that imports from its own folder imports
a class that a file of the run exports, and so does every search request if the base query is
generated where the settings look for it. -/
theorem imports_resolve {text : String} {schemaPath : Option String} {models : List Model}
    (selected : ∀ model ∈ models, model ∈ (Schema.ofText text schemaPath).models)
    {writer : CodeWriter} (linkable : writer.Linkable) :
    (∀ file ∈ writer.files models, ∀ names source, ImportsFrom file.2 names source →
      "./".toList <+: source.toList →
      Resolves (writer.files models) writer.settings.fileExtension file.1 source names) ∧
    (writer.settings.baseQueryImport = ({} : Settings).baseQueryImport →
      writer.settings.generateCommon = true → ∀ model ∈ models,
        ∃ text, (writer.files models).lookup (writer.pathOf .searchDto model) = some text ∧
          ImportsFrom text ["BaseQueryDto"] writer.settings.baseQueryImport ∧
          Resolves (writer.files models) writer.settings.fileExtension
            (writer.pathOf .searchDto model) writer.settings.baseQueryImport ["BaseQueryDto"]) := by
  have writable : ∀ model ∈ models, model.Writable :=
    fun model member => Schema.writable_of_mem_models (selected model member)
  constructor
  · intro file member names source imported here
    exact resolves_of_mem_files linkable writable member imported here
  · intro default common model member
    exact resolves_baseQuery linkable writable default common member

/-- Two models in one folder: the update request of the later one finds its own create request. -/
theorem imports_resolve_shared :
    let models := (Schema.ofText "model User \x7b\n id Int\n\x7d\nmodel user \x7b\n id Int\n\x7d" none).models
    let writer := ofSettings {}
    models.map Model.name = ["User", "user"] ∧ writer.Linkable ∧
      Resolves (writer.files models) "ts" "user/dto/update-user.dto.ts" "./create-user.dto"
        ["CreateuserDto"] := by
  intro models writer
  have linkable : writer.Linkable :=
    ⟨by decide, by decide, ⟨by decide, by decide⟩, by decide⟩
  obtain ⟨file, member, key, imported⟩ : ∃ file ∈ writer.files models,
      file.1 = "user/dto/update-user.dto.ts" ∧
        ImportsFrom file.2 ["CreateuserDto"] "./create-user.dto" := by decide +kernel
  have resolved := (imports_resolve (fun model selected => selected) linkable).1 file member _ _
    imported (by decide)
  rw [key] at resolved
  exact ⟨by decide +kernel, linkable, resolved⟩

/-- With a slash in the extension, a file lies in a folder of its own, where the request class
that it imports is not found. -/
theorem not_resolves_nested_extension :
    let models := (Schema.ofText "model A \x7b\n id Int\n\x7d" none).models
    let writer := ofSettings { fileExtension := "a/b" }
    ∃ file ∈ writer.files models, ImportsFrom file.2 ["CreateADto"] "./create-a.dto" ∧
      ¬ Resolves (writer.files models) "a/b" file.1 "./create-a.dto" ["CreateADto"] := by
  intro models writer
  obtain ⟨file, member, key, imported⟩ : ∃ file ∈ writer.files models,
      file.1 = "a/dto/update-a.dto.a/b" ∧ ImportsFrom file.2 ["CreateADto"] "./create-a.dto" := by
    decide +kernel
  refine ⟨file, member, imported, ?_⟩
  rintro ⟨text, found, -⟩
  have missing : (writer.files models).lookup
      (importTarget "a/dto/update-a.dto.a/b" "./create-a.dto" "a/b") = none := by decide +kernel
  rw [key, missing] at found
  cases found

end CodeWriter

end PrismaNest
