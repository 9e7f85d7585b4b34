import Mathlib.Algebra.Ring.Int.Defs
import PrismaNest.Proofs.Export.Deliveries
import PrismaNest.Proofs.Export.Recording

/-! What an export reports.

An export goes through its files in the order of their paths. So the manifest tells which files were
given and nothing else: not the order in which they were, nor where they went, nor what the exporter
has done before.
-/

set_option autoImplicit false

namespace PrismaNest

-- The order in which files are given makes no difference.
theorem FileSet.sorted_congr {files others : FileSet} (single : (files.map Prod.fst).Nodup)
    (otherSingle : (others.map Prod.fst).Nodup) (same : ∀ file, file ∈ files ↔ file ∈ others) :
    files.sorted = others.sorted := by
  have perm : others.Perm files :=
    ((List.perm_ext_iff_of_nodup single.of_map otherSingle.of_map).mpr same).symm
  exact sorted_eq single ((sorted_perm others).trans perm) (sorted_ordered others)

theorem FileSet.sorted_increasing {files : FileSet} (single : (files.map Prod.fst).Nodup) :
    (files.sorted.map Prod.fst).Pairwise (· < ·) := by
  have different : (files.sorted.map Prod.fst).Nodup :=
    ((sorted_perm files).map Prod.fst).nodup_iff.mpr single
  have ordered : (files.sorted.map Prod.fst).Pairwise (· ≤ ·) :=
    List.pairwise_map.mpr (sorted_ordered files)
  exact (ordered.and different).imp fun ⟨before, apart⟩ =>
    String.not_le.mp fun back => apart (String.le_antisymm before back)

/-- A manifest with one record for each of some files, in the strict order of their paths, and with
the totals of these records. -/
structure Manifest.Lists (manifest : Manifest) (files : FileSet) : Prop where
  version : manifest.version = generatorVersion
  records : ∀ record, record ∈ manifest.files ↔ ∃ file ∈ files, record = .ofContent file.1 file.2
  ordered : (manifest.files.map FileRecord.path).Pairwise (· < ·)
  totalFiles : manifest.totalFiles = manifest.files.length
  totalBytes : manifest.totalBytes = (manifest.files.map FileRecord.byteSize).sum
  totalLines : manifest.totalLines = (manifest.files.map FileRecord.lineCount).sum

theorem Manifest.lists_ofRecords {files : FileSet} (single : (files.map Prod.fst).Nodup) :
    (ofRecords files.records).Lists files where
  version := rfl
  records := by
    intro record
    simp only [ofRecords, FileSet.records, List.mem_map, (FileSet.sorted_perm files).mem_iff]
    exact exists_congr fun file => and_congr_right fun _ => eq_comm
  ordered := by
    have paths : (ofRecords files.records).files.map FileRecord.path = files.sorted.map Prod.fst := by
      rw [ofRecords, FileSet.records, List.map_map]
      rfl
    rw [paths]
    exact FileSet.sorted_increasing single
  totalFiles := rfl
  totalBytes := by
    rw [List.sum_eq_foldl, List.foldl_map]
    rfl
  totalLines := by
    rw [List.sum_eq_foldl, List.foldl_map]
    rfl

namespace Exporter

theorem written_of_run {exporter : Exporter} {files : FileSet} {before after : Workspace}
    {result : ExportResult} (ran : (exporter.run files).result before = (.ok result, after)) :
    result.written = if exporter.dryRun then [] else result.manifest.files.map FileRecord.path := by
  obtain ⟨elapsed, rfl⟩ := result_of_run ran
  simp [Manifest.ofRecords, FileSet.records, FileRecord.ofContent, Function.comp_def]

/-- Whatever an exporter has recorded before and wherever it exports to, a successful export of some
files lists exactly these, and so does every other successful export of the same files. -/
theorem rerun_canonical {exporter other : Exporter} {files others : FileSet}
    {records otherRecords : List FileRecord} {before otherBefore : Workspace}
    {result otherResult : ExportResult} (single : (files.map Prod.fst).Nodup)
    (otherSingle : (others.map Prod.fst).Nodup) (same : ∀ file, file ∈ files ↔ file ∈ others)
    (succeeded : ((exporter.rerun files).result records before).1.1 = .ok result)
    (otherSucceeded : ((other.rerun others).result otherRecords otherBefore).1.1 = .ok otherResult) :
    result.manifest.Lists files ∧
      result.written = (if exporter.dryRun then [] else result.manifest.files.map FileRecord.path) ∧
      result.manifest = otherResult.manifest ∧
      ∀ width, result.manifest.render width = otherResult.manifest.render width := by
  have ran : (exporter.run files).result before =
      (.ok result, ((exporter.run files).result before).2) :=
    Prod.ext ((exporter.result_rerun files records before).1.symm.trans succeeded) rfl
  have otherRan : (other.run others).result otherBefore =
      (.ok otherResult, ((other.run others).result otherBefore).2) :=
    Prod.ext ((other.result_rerun others otherRecords otherBefore).1.symm.trans otherSucceeded) rfl
  have manifest := manifest_of_run ran
  have ordered := FileSet.sorted_congr single otherSingle same
  have equal : result.manifest = otherResult.manifest := by
    rw [manifest, manifest_of_run otherRan, FileSet.records, FileSet.records, ordered]
  refine ⟨?_, written_of_run ran, equal, fun width => by rw [equal]⟩
  rw [manifest]
  exact Manifest.lists_ofRecords single

/-- A dry run of an exporter in use, and an export of the same files in another order. -/
theorem rerun_canonical_dry :
    let dry : Exporter := ⟨{}, .ofText "preview", false, true⟩
    let wet : Exporter := ⟨{ writeManifest := true }, .ofText "out", true, false⟩
    let files : FileSet := [("b.ts", "first\nlast"), ("a/c.ts", "ä\n")]
    let turned : FileSet := files.reverse
    let before : Workspace := ⟨⟨[(["home"], .folder)]⟩, ["home"], .zero false, []⟩
    ∃ result otherResult,
      ((dry.rerun files).result [.ofContent "z.ts" ""] before).1.1 = .ok result ∧
      ((wet.rerun turned).result [] before).1.1 = .ok otherResult ∧
      result.manifest.Lists files ∧ result.written = [] ∧ result.manifest = otherResult.manifest := by
  intro dry wet files turned before
  have ordered : files.sorted = turned ∧ turned.sorted = turned := by
    simp +decide [files, turned, FileSet.sorted, List.mergeSort]
  obtain ⟨result, succeeded⟩ : ∃ result,
      ((dry.rerun files).result [.ofContent "z.ts" ""] before).1.1 = .ok result := by
    simp only [rerun, ordered]
    exact ⟨_, rfl⟩
  obtain ⟨otherResult, otherSucceeded⟩ : ∃ otherResult,
      ((wet.rerun turned).result [] before).1.1 = .ok otherResult := by
    have ran : ((wet.rerun turned).result [] before).1.1.isOk = true := by
      simp only [rerun, ordered]
      decide +kernel
    rcases outcome : ((wet.rerun turned).result [] before).1.1 with failure | otherResult
    · rw [outcome] at ran
      cases ran
    · exact ⟨otherResult, rfl⟩
  obtain ⟨lists, written, equal, -⟩ := rerun_canonical (by decide) (by decide)
    (fun file => List.mem_reverse.symm) succeeded otherSucceeded
  exact ⟨result, otherResult, succeeded, otherSucceeded, lists, written, equal⟩

end Exporter

end PrismaNest
