import PrismaNest.Proofs.Artifact.Ownership
import PrismaNest.Proofs.Export.Steps
import PrismaNest.Proofs.Export.Targets
import PrismaNest.Proofs.Workspace.Faults

/-! Which paths a failed export names.

An export fails with the file system only, and does not name a path that leads to a file, as long
as none of its files is to be written right below that path.
-/

set_option autoImplicit false

namespace PrismaNest

open Text PrismaNest.Action

theorem Path.hasNull_ofText {text : String} (clear : Lacks '\x00' text) :
    (Path.ofText text).hasNull = false := by
  rw [hasNull, List.any_eq_false]
  intro name member null
  obtain ⟨piece, isPiece, rfl⟩ := List.mem_map.mp (List.mem_filter.mp member).1
  rw [String.toList_ofList, List.contains_iff_mem] at null
  exact clear ((sublist_of_mem_splitOnP isPiece).mem null)

theorem Path.hasNull_under {folder path : Path} (clear : folder.hasNull = false)
    (inside : path.hasNull = false) : (folder.under path).hasNull = false := by
  unfold Path.under
  split
  · rw [hasNull, List.any_append, Bool.or_eq_false_iff]
    exact ⟨clear, inside⟩
  · exact inside

/-- A path that starts with names below the folder that it is taken from. -/
structure Path.GoesDown (path : String) : Prop where
  relative : (Path.ofText path).root = ""
  inside : (Path.ofText path).names ≠ []

theorem Path.goesDown_of_toList {path head : String} {rest : List Char} (step : IsStep head)
    (written : path.toList = head.toList ++ '/' :: rest) : GoesDown path := by
  have flat := step.noSlash.decide_eq_false
  obtain ⟨c, others, spelled⟩ :=
    List.exists_cons_of_ne_nil (mt String.toList_eq_nil_iff.mp step.nonempty)
  have start := flat c (spelled ▸ List.mem_cons_self)
  constructor
  · rw [ofText, written, rootOf, spelled, List.cons_append, List.takeWhile_cons_of_neg (by simp [start])]
  · have kept : [head].filter (fun name => name != "" && name != ".") = [head] :=
      filter_steps (by simpa using step)
    simp only [ofText, written]
    rw [List.splitOnP_append_cons _ _ (by decide), List.splitOnP_eq_singleton flat, List.map_append,
      List.filter_append, List.map_singleton, String.ofList_toList, kept]
    exact List.cons_ne_nil _ _

theorem CodeWriter.goesDown_of_mem_files {writer : CodeWriter} {models : List Model}
    (labels : ∀ model ∈ models, IsLabel model.folderName) :
    ∀ path ∈ (writer.files models).map Prod.fst, Path.GoesDown path := by
  intro path member
  rw [map_fst_files labels, List.mem_append] at member
  rcases member with inFolder | common
  · obtain ⟨folder, listed, inside⟩ := List.mem_flatMap.mp inFolder
    obtain ⟨kind, -, rfl⟩ := List.mem_map.mp inside
    obtain ⟨model, modelMember, rfl⟩ := mem_folders.mp listed
    exact Path.goesDown_of_toList (labels model modelMember).isName.isStep
      (kind.toList_path model.folderName writer.settings.fileExtension)
  · rw [commonPaths] at common
    split at common
    · rw [List.mem_singleton.mp common]
      have step : IsStep "common" := (isName_of_length (by decide) (by decide)).isStep
      exact Path.goesDown_of_toList step (toList_baseQueryPath writer.settings.fileExtension)
    · cases common

theorem ArtifactKind.lacks_null_path {folder extension : String} (inFolder : Lacks '\x00' folder)
    (inExtension : Lacks '\x00' extension) (kind : ArtifactKind) :
    Lacks '\x00' (kind.path folder extension) := by
  cases kind
  all_goals
    simp only [path, lacks_append, inFolder, inExtension, true_and, and_true]
    decide

theorem CodeWriter.lacks_null_of_mem_files {writer : CodeWriter} {models : List Model}
    (labels : ∀ model ∈ models, IsLabel model.folderName)
    (clear : Lacks '\x00' writer.settings.fileExtension) :
    ∀ path ∈ (writer.files models).map Prod.fst, Lacks '\x00' path := by
  intro path member
  rw [map_fst_files labels, List.mem_append] at member
  rcases member with inFolder | common
  · obtain ⟨folder, listed, inside⟩ := List.mem_flatMap.mp inFolder
    obtain ⟨kind, -, rfl⟩ := List.mem_map.mp inside
    obtain ⟨model, modelMember, rfl⟩ := mem_folders.mp listed
    exact kind.lacks_null_path ((labels model modelMember).lacks (by decide)) clear
  · rw [commonPaths] at common
    split at common
    · rw [List.mem_singleton.mp common]
      have fixed : Lacks '\x00' "common/dto/base-query.dto." := by decide
      exact lacks_append.mpr ⟨fixed, clear⟩
    · cases common

namespace Exporter

variable {exporter : Exporter} {spared : Path} {files : FileSet}

/-- A path can be written to, and not right below the spared one. -/
structure KeepsOff (exporter : Exporter) (spared : Path) (path : String) : Prop where
  noNull : Lacks '\x00' path
  apart : (exporter.target path).parent ≠ spared

section
variable (normal : exporter.output.IsNormal) (plain : exporter.output.hasNull = false)
include normal plain

theorem writeText_spares {path : String} (keepsOff : exporter.KeepsOff spared path) (content : String)
    (atomic : Bool) : Spares spared (writeText (exporter.target path) content atomic) :=
  Action.writeText_spares (normal.under (Path.isNormal_ofText path))
    (Path.hasNull_under plain (Path.hasNull_ofText keepsOff.noNull)) keepsOff.apart content atomic

theorem writeAll_spares (keepsOff : ∀ path ∈ files.map Prod.fst, exporter.KeepsOff spared path) :
    Spares spared (exporter.writeAll files) := by
  induction files with
  | nil => exact spares_pure ()
  | cons file files ih =>
    rw [writeAll, writeFile]
    refine Spares.bind ?_ fun _ => ih fun path member => keepsOff path (List.mem_cons_of_mem _ member)
    split
    · exact spares_log _ _ _
    · refine Spares.bind ?_ fun _ => spares_pure ()
      exact writeText_spares normal plain (keepsOff file.1 List.mem_cons_self) file.2 _

theorem run_spares (keepsOff : ∀ path ∈ exporter.paths files, exporter.KeepsOff spared path) :
    Spares spared (exporter.run files) := by
  have writes : Spares spared (exporter.writeAll files.sorted) := by
    refine writeAll_spares normal plain fun path member => keepsOff path ?_
    exact List.mem_append_left _ (((FileSet.sorted_perm files).map Prod.fst).mem_iff.mp member)
  refine Spares.bind (Spares.timed ?_ _) fun _ => (spares_log _ _ _).bind fun _ => spares_pure _
  refine writes.bind fun _ => ?_
  rw [writeManifest]
  split
  · rename_i asked
    rw [Bool.and_eq_true] at asked
    refine Spares.bind ?_ fun _ => spares_log _ _ _
    exact writeText_spares normal plain (keepsOff manifestName (manifestName_mem_paths asked.1)) _ _
  · exact spares_pure ()

end

section
variable (null : exporter.output.hasNull = true)
include null

-- Nothing is written below an output path with a null character.
theorem failsOnlyWith_writeText {path : String} (down : Path.GoesDown path) (content : String)
    (atomic : Bool) : FailsOnlyWith (· = .nullInPath) (writeText (exporter.target path) content atomic) := by
  have parent : (exporter.target path).parent.hasNull = true := by
    rw [target, Path.under, if_pos down.relative, Path.parent, Path.hasNull,
      List.dropLast_append_of_ne_nil down.inside, List.any_append, Bool.or_eq_true]
    exact .inl null
  intro before other failed
  rw [writeText, result_bind, result_ensureFolder_null parent] at failed
  cases failed
  rfl

theorem failsOnlyWith_writeAll (down : ∀ path ∈ files.map Prod.fst, Path.GoesDown path) :
    FailsOnlyWith (· = .nullInPath) (exporter.writeAll files) := by
  induction files with
  | nil => exact (onlyLogs_pure ()).failsOnlyWith
  | cons file files ih =>
    rw [writeAll, writeFile]
    refine FailsOnlyWith.bind ?_ fun _ => ih fun path member => down path (List.mem_cons_of_mem _ member)
    split
    · exact (onlyLogs_log _ _ _).failsOnlyWith
    · refine FailsOnlyWith.bind ?_ fun _ => (onlyLogs_pure ()).failsOnlyWith
      exact failsOnlyWith_writeText null (down file.1 List.mem_cons_self) file.2 _

theorem failsOnlyWith_run (down : ∀ path ∈ files.map Prod.fst, Path.GoesDown path) :
    FailsOnlyWith (· = .nullInPath) (exporter.run files) := by
  refine FailsOnlyWith.bind (FailsOnlyWith.timed ?_ _) fun _ =>
    ((onlyLogs_log _ _ _).bind fun _ => onlyLogs_pure _).failsOnlyWith
  refine FailsOnlyWith.bind ?_ fun _ => ?_
  · refine failsOnlyWith_writeAll null fun path member => down path ?_
    exact ((FileSet.sorted_perm files).map Prod.fst).mem_iff.mp member
  · rw [writeManifest]
    split
    · refine FailsOnlyWith.bind ?_ fun _ => (onlyLogs_log _ _ _).failsOnlyWith
      have spelled := spells_manifestName.ofText
      exact failsOnlyWith_writeText null ⟨by rw [spelled], by rw [spelled]; exact List.cons_ne_nil _ _⟩ _ _
    · exact (onlyLogs_pure ()).failsOnlyWith

end

end Exporter

end PrismaNest
