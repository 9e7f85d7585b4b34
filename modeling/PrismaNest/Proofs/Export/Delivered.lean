import PrismaNest.Proofs.Export.Deliveries
import PrismaNest.Proofs.Text.ByteLines

/-! What an export leaves.

An export that succeeds leaves each of its files with its content, the manifest if the settings
ask for it, and every other file as it was. The records of the manifest describe the bytes that
are there. A file that is moved to its place goes into a folder that it finds there, and the
folders of the output path are made first: none of them may lie at that place.
-/

set_option autoImplicit false

namespace PrismaNest

/-- A record gives the size, the lines and the checksum of some bytes. -/
structure FileRecord.Describes (record : FileRecord) (content : ByteArray) : Prop where
  size : record.byteSize = content.size
  lines : record.lineCount = Text.byteLineCount content
  checksum : record.checksum = Text.sha256 content

theorem FileRecord.describes_ofContent (path content : String) :
    (FileRecord.ofContent path content).Describes content.toUTF8 where
  size := rfl
  lines := congrArg Int.ofNat (Text.byteLineCount_toUTF8 content).symm
  checksum := rfl

namespace Exporter

open Workspace

variable {exporter : Exporter} {files : FileSet} {before after : Workspace} {result : ExportResult}

/-- Where a file of the export goes there is no folder, nor does the output path pass there. -/
structure Clear (exporter : Exporter) (workspace : Workspace) (path : String) : Prop where
  noFolder : workspace.tree.isFolder (exporter.location workspace.home path) = false
  notPassed : ¬ exporter.output.Crosses workspace.home (exporter.location workspace.home path)

theorem Clear.isOpen {names : List String} {path : String} (clear : exporter.Clear before path)
    (spelled : Path.Spells names path) : exporter.Open before path where
  clear := clear.noFolder
  aside := not_crosses_own spelled clear.notPassed

/-- The files are there, the manifest describes them, and all other files are as before. -/
structure Delivers (exporter : Exporter) (files : FileSet) (before : Workspace)
    (result : ExportResult) (after : Workspace) : Prop where
  written : ∀ path content, (path, content) ∈ files →
    after.tree.content? (exporter.location before.home path) = some content.toUTF8
  manifest : after.tree.content? (exporter.location before.home manifestName) =
    if exporter.settings.writeManifest then some (result.manifest.render 2).toUTF8
    else before.tree.content? (exporter.location before.home manifestName)
  elsewhere : ∀ location, (∀ path ∈ manifestName :: files.map Prod.fst,
    location ≠ exporter.location before.home path) →
    after.tree.content? location = before.tree.content? location
  recorded : (result.manifest.files.map FileRecord.path).Perm (files.map Prod.fst)
  described : ∀ record ∈ result.manifest.files, ∃ content,
    after.tree.content? (exporter.location before.home record.path) = some content ∧
      record.Describes content

-- No file of the export goes where the manifest goes.
theorem location_ne_manifest (plain : files.Plain) {file : String × String} (member : file ∈ files) :
    exporter.location before.home file.1 ≠ exporter.location before.home manifestName := by
  obtain ⟨names, spelled, apart⟩ := plain.spelled file member
  exact location_ne_of_spells spelled spells_manifestName apart

-- After all files the place of the manifest is still open: none of them makes a folder there.
theorem open_manifest (plain : files.Plain) (clear : exporter.Clear before manifestName)
    {middle : Workspace} {written : List (Location × ByteArray)}
    (added : before.Adds written (exporter.Crossed before.home files.sorted) middle) :
    exporter.Open middle manifestName where
  clear := by
    rw [added.home]
    refine added.not_isFolder ?_ clear.noFolder
    rintro ⟨file, listed, crossed⟩
    have member := (FileSet.sorted_perm files).mem_iff.mp listed
    obtain ⟨names, spelled, apart⟩ := plain.spelled file member
    exact (leavesAlone_of_spells spelled spells_manifestName clear.notPassed apart).2 crossed
  aside := by
    rw [added.home]
    exact (clear.isOpen spells_manifestName).aside

-- Everything that a successful export puts into the tree.
theorem run_adds (real : exporter.dryRun = false) (plain : files.Plain)
    (clear : exporter.atomic = true → ∀ path ∈ exporter.paths files, exporter.Clear before path)
    (ran : (exporter.run files).result before = (.ok result, after)) :
    before.Adds (files.sorted.map (exporter.delivery before.home) ++
      exporter.manifestDelivery before.home result.manifest) (fun _ => True) after := by
  obtain ⟨middle, last, wrote, noted, sameTree, sameHome⟩ := run_ok ran
  have clearFile : exporter.atomic = true → ∀ file ∈ files, exporter.Clear before file.1 :=
    fun atomic file member => clear atomic file.1 (List.mem_append_left _ (List.mem_map_of_mem member))
  have isOpen : exporter.atomic = true → ∀ file ∈ files.sorted, exporter.Open before file.1 := by
    intro atomic file listed
    have member := (FileSet.sorted_perm files).mem_iff.mp listed
    obtain ⟨names, spelled, -⟩ := plain.spelled file member
    exact (clearFile atomic file member).isOpen spelled
  obtain ⟨done, -, complete, added⟩ := writeAll_adds real files.sorted isOpen
    (plain.toSpelled.sorted_apart fun atomic file member => (clearFile atomic file member).notPassed)
  rw [wrote] at complete added
  rw [complete rfl] at added
  have manifestAdded := writeManifest_attempts real result.manifest fun atomic asked =>
    open_manifest plain (clear atomic manifestName (manifestName_mem_paths asked)) added
  rw [noted, added.home] at manifestAdded
  have all : before.Adds (files.sorted.map (exporter.delivery before.home) ++
      exporter.manifestDelivery before.home result.manifest) (fun _ => True) last := by
    refine (added.mono fun _ _ => trivial).trans (Adds.mono manifestAdded fun _ _ => trivial) ?_
    intro delivered member
    obtain ⟨file, listed, rfl⟩ := List.mem_map.mp member
    exact not_mem_manifestDelivery
      (location_ne_manifest plain ((FileSet.sorted_perm files).mem_iff.mp listed))
  exact all.congr sameHome sameTree

theorem run_records (ran : (exporter.run files).result before = (.ok result, after)) :
    result.manifest.files = files.sorted.map fun file => .ofContent file.1 file.2 := by
  rw [manifest_of_run ran]
  rfl

/-- An export that succeeds puts exactly its files on disk, and its manifest describes them. -/
theorem run_delivers (real : exporter.dryRun = false) (plain : files.Plain)
    (clear : exporter.atomic = true → ∀ path ∈ exporter.paths files, exporter.Clear before path)
    (ran : (exporter.run files).result before = (.ok result, after)) :
    exporter.Delivers files before result after := by
  have added := run_adds real plain clear ran
  have perm := FileSet.sorted_perm files
  have written : ∀ path content, (path, content) ∈ files →
      after.tree.content? (exporter.location before.home path) = some content.toUTF8 := by
    intro path content member
    have delivered : exporter.delivery before.home (path, content) ∈
        files.sorted.map (exporter.delivery before.home) := List.mem_map_of_mem (perm.mem_iff.mpr member)
    exact added.content?_of_mem (List.mem_append_left _ delivered)
  have untouched : ∀ location, (∀ file ∈ files, location ≠ exporter.location before.home file.1) →
      location ∉ (files.sorted.map (exporter.delivery before.home)).map Prod.fst :=
    fun location apart => not_mem_deliveries fun file listed => apart file (perm.mem_iff.mp listed)
  refine ⟨written, ?_, ?_, ?_, ?_⟩
  · split
    · rename_i asked
      refine added.content?_of_mem (List.mem_append_right _ ?_)
      rw [manifestDelivery, if_pos asked]
      exact List.mem_singleton_self _
    · rename_i unasked
      refine added.content?_elsewhere ?_
      rw [manifestDelivery, if_neg unasked, List.append_nil]
      exact untouched _ fun file member => (location_ne_manifest plain member).symm
  · intro location outside
    refine added.content?_elsewhere ?_
    rw [List.map_append, List.mem_append, not_or]
    refine ⟨untouched location ?_, not_mem_manifestDelivery (outside _ List.mem_cons_self)⟩
    exact fun file member => outside file.1 (List.mem_cons_of_mem _ (List.mem_map_of_mem member))
  · rw [run_records ran, List.map_map]
    exact perm.map Prod.fst
  · intro record member
    rw [run_records ran] at member
    obtain ⟨file, listed, rfl⟩ := List.mem_map.mp member
    exact ⟨file.2.toUTF8, written file.1 file.2 (perm.mem_iff.mp listed),
      FileRecord.describes_ofContent file.1 file.2⟩

/-- A stale file is replaced, and a folder is made for the other file. -/
theorem run_delivers_replaced :
    let exporter : Exporter := ⟨{ writeManifest := true }, .ofText "out", true, false⟩
    let files : FileSet := [("new.ts", "first\nlast"), ("folder/old.ts", "ä\n")]
    let before : Workspace := ⟨⟨[(["home"], .folder), (["home", "out"], .folder),
      (["home", "out", "new.ts"], .file "stale".toUTF8)]⟩, ["home"], .zero false, []⟩
    ∃ result after, (exporter.run files).result before = (.ok result, after) ∧
      exporter.Delivers files before result after := by
  intro exporter files before
  have plain : files.Plain := by
    refine ⟨?_, by decide⟩
    intro file member
    rcases List.mem_pair.mp member with rfl | rfl
    · exact ⟨["new.ts"], ⟨by decide, by decide +kernel, by decide⟩, by decide⟩
    · exact ⟨["folder", "old.ts"], ⟨by decide, by decide +kernel, by decide⟩, by decide⟩
  have clear : exporter.atomic = true → ∀ path ∈ exporter.paths files,
      exporter.Clear before path := by
    intro _ path member
    have checked : ∀ path ∈ exporter.paths files,
        before.tree.isFolder (exporter.location before.home path) = false ∧
          ¬ exporter.output.Crosses before.home (exporter.location before.home path) := by
      decide +kernel
    exact ⟨(checked path member).1, (checked path member).2⟩
  have ordered : files.sorted = [("folder/old.ts", "ä\n"), ("new.ts", "first\nlast")] := by
    simp +decide [files, FileSet.sorted, List.mergeSort]
  have succeeds : ((exporter.run files).result before).1.isOk = true := by
    rw [run, FileSet.records, ordered]
    decide +kernel
  rcases ran : (exporter.run files).result before with ⟨failure | result, after⟩
  · rw [ran] at succeeds
    cases succeeds
  · exact ⟨result, after, rfl, run_delivers rfl plain clear ran⟩

/-- An output path through a missing folder makes that folder. A file of the same name then goes
into it, under its temporary name. -/
theorem not_delivers_passed_folder :
    let exporter : Exporter := ⟨{}, .ofText "x/..", true, false⟩
    let files : FileSet := [("x", "hi")]
    let before : Workspace := ⟨⟨[(["home"], .folder)]⟩, ["home"], .zero false, []⟩
    files.Plain ∧ (∀ path ∈ manifestName :: files.map Prod.fst,
      before.tree.isFolder (exporter.location before.home path) = false) ∧
      ∃ result after, (exporter.run files).result before = (.ok result, after) ∧
        ¬ exporter.Delivers files before result after ∧
        (after.tree.content? ["home", "x", ".x.RANDOM.tmp"]).isSome = true := by
  intro exporter files before
  have plain : files.Plain := by
    refine ⟨?_, by decide⟩
    intro file member
    cases List.mem_singleton.mp member
    refine ⟨["x"], ⟨by decide, ?_, by decide⟩, by decide⟩
    intro name named
    cases List.mem_singleton.mp named
    exact ⟨by decide, by decide, by decide, by decide⟩
  have ran : ((exporter.run files).result before).1.isOk = true ∧
      ((exporter.run files).result before).2.tree.content? (exporter.location before.home "x") = none ∧
      (((exporter.run files).result before).2.tree.content?
        ["home", "x", ".x.RANDOM.tmp"]).isSome = true := by
    decide +kernel
  obtain ⟨succeeds, absent, stray⟩ := ran
  refine ⟨plain, by decide +kernel, ?_⟩
  rcases ran : (exporter.run files).result before with ⟨failure | result, after⟩
  · rw [ran] at succeeds
    cases succeeds
  · rw [ran] at absent stray
    refine ⟨result, after, rfl, ?_, stray⟩
    intro delivers
    have there := delivers.written "x" "hi" List.mem_cons_self
    rw [absent] at there
    cases there

end Exporter

end PrismaNest
