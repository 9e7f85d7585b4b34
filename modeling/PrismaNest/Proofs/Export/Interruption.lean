import PrismaNest.Proofs.Export.Delivered
import PrismaNest.Proofs.Export.Recording
import PrismaNest.Proofs.Workspace.Failures

/-! Exports that fail.

An export that fails has written its first files, in the order of their paths, and has made folders.
No other file has come or changed, not even that of the manifest, and the exporter can be used again
as if it were new. A file that is moved to its place must not meet a folder there, as in an export
that succeeds.
-/

set_option autoImplicit false

namespace PrismaNest.Exporter

open Workspace

variable {exporter : Exporter} {files : FileSet} {before after : Workspace} {failure : Failure}

/-- The first files of an export are there. Everything else is as before, but for folders where nothing
was. -/
structure LeavesFirst (exporter : Exporter) (files : FileSet) (count : Nat)
    (before after : Workspace) : Prop where
  written : ∀ file ∈ files.sorted.take count,
    after.tree.content? (exporter.location before.home file.1) = some file.2.toUTF8
  elsewhere : ∀ location,
    (∀ file ∈ files.sorted.take count, location ≠ exporter.location before.home file.1) →
    after.tree.lookUp? location = before.tree.lookUp? location ∨
      before.tree.lookUp? location = none ∧ after.tree.lookUp? location = some .folder

theorem LeavesFirst.of_adds {done : FileSet} (first : done <+: files.sorted)
    (added : before.Adds (done.map (exporter.delivery before.home)) (fun _ => True) after) :
    exporter.LeavesFirst files done.length before after := by
  have taken : files.sorted.take done.length = done := (List.prefix_iff_eq_take.mp first).symm
  constructor
  · rw [taken]
    exact fun file member => added.content?_of_mem (List.mem_map_of_mem member)
  · rw [taken]
    intro location apart
    exact (added.elsewhere location (not_mem_deliveries apart)).imp_right
      fun ⟨absent, made, _⟩ => ⟨absent, made⟩

-- Without its manifest, an export has made folders at most after its files.
theorem writeManifest_failed {manifest : Manifest}
    (failed : (exporter.writeManifest manifest).result before = (.error failure, after)) :
    before.Adds [] (fun _ => True) after := by
  rw [writeManifest] at failed
  split at failed
  · rcases Action.of_result_bind_error failed with wrote | ⟨_, last, -, logged⟩
    · exact Adds.mono (Action.writeText_failed wrote) fun _ _ => trivial
    · cases logged
  · cases failed

section
variable (real : exporter.dryRun = false) (spelled : files.Spelled)
  (clear : exporter.atomic = true → ∀ file ∈ files, exporter.Clear before file.1)
include real spelled clear

theorem run_leavesFirst
    (failed : (exporter.run files).result before = (.error failure, after)) :
    ∃ count, exporter.LeavesFirst files count before after := by
  have isOpen : exporter.atomic = true → ∀ file ∈ files.sorted, exporter.Open before file.1 := by
    intro atomic file listed
    have member := (FileSet.sorted_perm files).mem_iff.mp listed
    obtain ⟨names, way⟩ := spelled.names file member
    exact (clear atomic file member).isOpen way
  obtain ⟨done, first, complete, added⟩ := writeAll_adds real files.sorted isOpen
    (spelled.sorted_apart fun atomic file member => (clear atomic file member).notPassed)
  have widened : before.Adds (done.map (exporter.delivery before.home)) (fun _ => True)
      ((exporter.writeAll files.sorted).result before).2 := added.mono fun _ _ => trivial
  refine ⟨done.length, .of_adds first ?_⟩
  rcases run_failed failed with ⟨last, wrote, tree, home⟩ | ⟨middle, last, wrote, noted, tree, home⟩
  · rw [wrote] at widened
    exact widened.congr home tree
  · rw [wrote] at widened
    have whole := widened.trans (writeManifest_failed noted) fun _ _ => List.not_mem_nil
    rw [List.append_nil] at whole
    exact whole.congr home tree

/-- An export that fails leaves exactly some first files written, and an exporter that is as good as
new. -/
theorem rerun_failed {records : List FileRecord}
    (failed : ((exporter.rerun files).result records before).1.1 = .error failure) :
    let left := (exporter.rerun files).result records before
    (∃ count, exporter.LeavesFirst files count before left.2) ∧
      ∀ more, (exporter.rerun more).result left.1.2 left.2 = (exporter.rerun more).result [] left.2 := by
  obtain ⟨outcome, workspace⟩ := exporter.result_rerun files records before
  rw [outcome] at failed
  constructor
  · rw [workspace]
    exact run_leavesFirst real spelled clear (Prod.ext failed rfl)
  · intro more
    simp only [rerun, Recording.result_bind, Recording.result_set]

end

/-- A file stands where the folder of the second file should be. -/
theorem rerun_failed_blocked :
    let exporter : Exporter := ⟨{ writeManifest := true }, .ofText "out", true, false⟩
    let files : FileSet := [("b/c.ts", "second"), ("a.ts", "first")]
    let before : Workspace := ⟨⟨[(["home"], .folder), (["home", "out"], .folder),
      (["home", "out", "a.ts"], .file "stale".toUTF8), (["home", "out", "b"], .file "".toUTF8)]⟩,
      ["home"], .zero false, []⟩
    let left := (exporter.rerun files).result [.ofContent "z.ts" ""] before
    left.1.1.isOk = false ∧ (∃ count, exporter.LeavesFirst files count before left.2) ∧
      ∀ more, (exporter.rerun more).result left.1.2 left.2 = (exporter.rerun more).result [] left.2 := by
  intro exporter files before left
  have spelled : files.Spelled := by
    refine ⟨?_, by decide⟩
    intro file member
    rcases List.mem_pair.mp member with rfl | rfl
    · exact ⟨["b", "c.ts"], by decide, by decide +kernel, by decide⟩
    · exact ⟨["a.ts"], by decide, by decide +kernel, by decide⟩
  have clear : exporter.atomic = true → ∀ file ∈ files, exporter.Clear before file.1 := by
    have checked : ∀ file ∈ files,
        before.tree.isFolder (exporter.location before.home file.1) = false ∧
          ¬ exporter.output.Crosses before.home (exporter.location before.home file.1) := by
      decide +kernel
    exact fun _ file member => ⟨(checked file member).1, (checked file member).2⟩
  have ordered : files.sorted = [("a.ts", "first"), ("b/c.ts", "second")] := by
    simp +decide [files, FileSet.sorted, List.mergeSort]
  have fails : left.1.1.isOk = false := by
    simp only [left, rerun, ordered]
    decide +kernel
  obtain ⟨failure, failed⟩ : ∃ failure, left.1.1 = .error failure := by
    rcases ran : left.1.1 with failure | result
    · exact ⟨failure, rfl⟩
    · rw [ran] at fails
      cases fails
  exact ⟨fails, rerun_failed rfl spelled clear failed⟩

/-- An output path through a missing folder makes that folder. A file of the same name then goes into
it under its temporary name, and stays there when a later file fails. -/
theorem not_leavesFirst_passed_folder :
    let exporter : Exporter := ⟨{}, .ofText "x/..", true, false⟩
    let files : FileSet := [("x", "hi"), ("z/q", "new")]
    let before : Workspace := ⟨⟨[(["home"], .folder), (["home", "z"], .file "old".toUTF8)]⟩, ["home"],
      .zero false, []⟩
    let left := (exporter.rerun files).result [] before
    files.Spelled ∧
      (∀ file ∈ files, before.tree.isFolder (exporter.location before.home file.1) = false) ∧
      left.1.1.isOk = false ∧ ∀ count, ¬ exporter.LeavesFirst files count before left.2 := by
  intro exporter files before left
  have spelled : files.Spelled := by
    refine ⟨?_, by decide⟩
    intro file member
    rcases List.mem_pair.mp member with rfl | rfl
    · exact ⟨["x"], by decide, by decide +kernel, by decide⟩
    · exact ⟨["z", "q"], by decide, by decide +kernel, by decide⟩
  have ordered : files.sorted = files := by
    simp +decide [files, FileSet.sorted, List.mergeSort]
  have ran : left.1.1.isOk = false ∧ before.tree.lookUp? ["home", "x", ".x.RANDOM.tmp"] = none ∧
      left.2.tree.content? ["home", "x", ".x.RANDOM.tmp"] = some "hi".toUTF8 := by
    simp only [left, rerun, ordered]
    decide +kernel
  obtain ⟨fails, absent, stray⟩ := ran
  refine ⟨spelled, by decide +kernel, fails, fun count leaves => ?_⟩
  have outside : ∀ file ∈ files,
      ["home", "x", ".x.RANDOM.tmp"] ≠ exporter.location before.home file.1 := by
    decide +kernel
  have there := FileTree.content?_eq_some_iff.mp stray
  rcases leaves.elsewhere ["home", "x", ".x.RANDOM.tmp"] fun file member =>
    outside file (ordered ▸ List.mem_of_mem_take member) with same | ⟨-, made⟩
  · rw [there, absent] at same
    cases same
  · rw [there] at made
    cases made

end PrismaNest.Exporter
