import PrismaNest.Proofs.Export.Steps
import PrismaNest.Proofs.Export.Targets

/-! Writing the files of an export one after another.

Each file is written where nothing written before has made a folder, and a later write leaves
it alone. So the first files are there up to the one that fails, or all of them.
-/

set_option autoImplicit false

namespace PrismaNest.Exporter

open Workspace

variable {exporter : Exporter} {before : Workspace} {place : Location → Prop}

/-- What a file of the export puts into the tree. -/
def delivery (exporter : Exporter) (home : Location) (file : String × String) :
    Location × ByteArray :=
  (exporter.location home file.1, file.2.toUTF8)

/-- A file can be put where it goes: no folder is there, or comes there on the way. -/
structure Open (exporter : Exporter) (workspace : Workspace) (path : String) : Prop where
  clear : workspace.tree.isFolder (exporter.location workspace.home path) = false
  aside : ¬ (exporter.target path).parent.Crosses workspace.home
    (exporter.location workspace.home path)

theorem Open.preserved {after : Workspace} {path other : String} {content : ByteArray}
    (isOpen : exporter.Open before other)
    (added : before.Adds [(exporter.location before.home path, content)]
      ((exporter.target path).parent.Crosses before.home) after)
    (aside : ¬ (exporter.target path).parent.Crosses before.home
      (exporter.location before.home other)) : exporter.Open after other where
  clear := by
    rw [added.home]
    exact added.not_isFolder aside isOpen.clear
  aside := by
    rw [added.home]
    exact isOpen.aside

theorem writeText_target {path : String}
    (isOpen : exporter.atomic = true → exporter.Open before path) (content : String) :
    before.Attempts [exporter.delivery before.home (path, content)]
      ((exporter.target path).parent.Crosses before.home)
      ((Action.writeText (exporter.target path) content exporter.atomic).result before) :=
  Action.writeText_attempts content exporter.atomic (fun atomic => (isOpen atomic).clear)
    fun atomic => (isOpen atomic).aside

/-- The places at which folders are made for some files. -/
def Crossed (exporter : Exporter) (home : Location) (files : FileSet) (asked : Location) : Prop :=
  ∃ file ∈ files, (exporter.target file.1).parent.Crosses home asked

section
variable {home asked : Location} {file : String × String} {files : FileSet}

theorem Crossed.head (crossed : (exporter.target file.1).parent.Crosses home asked) :
    exporter.Crossed home (file :: files) asked :=
  ⟨file, List.mem_cons_self, crossed⟩

theorem Crossed.tail (crossed : exporter.Crossed home files asked) :
    exporter.Crossed home (file :: files) asked := by
  obtain ⟨later, member, there⟩ := crossed
  exact ⟨later, List.mem_cons_of_mem file member, there⟩

theorem not_mem_deliveries (apart : ∀ file ∈ files, asked ≠ exporter.location home file.1) :
    asked ∉ (files.map (exporter.delivery home)).map Prod.fst := by
  intro listed
  rw [List.map_map] at listed
  obtain ⟨file, member, same⟩ := List.mem_map.mp listed
  exact apart file member same.symm

end

-- However far the writing gets, exactly the first files are there: all of them if it succeeds.
theorem writeAll_adds (real : exporter.dryRun = false) (files : FileSet)
    (isOpen : exporter.atomic = true → ∀ file ∈ files, exporter.Open before file.1)
    (ordered : files.Pairwise fun first second => exporter.Apart before.home first.1 second.1) :
    ∃ done, done <+: files ∧
      (((exporter.writeAll files).result before).1 = .ok () → done = files) ∧
      before.Adds (done.map (exporter.delivery before.home)) (exporter.Crossed before.home files)
        ((exporter.writeAll files).result before).2 := by
  induction files generalizing before with
  | nil => exact ⟨[], List.nil_prefix, fun _ => rfl, Adds.refl before _⟩
  | cons file files ih =>
    obtain ⟨path, content⟩ := file
    rw [List.pairwise_cons] at ordered
    have first := writeText_target (fun atomic => isOpen atomic (path, content) List.mem_cons_self)
      content
    simp only [writeAll, writeFile, real, Bool.false_eq_true, ↓reduceIte, Action.result_bind,
      Action.result_pure]
    rcases ran : (Action.writeText (exporter.target path) content exporter.atomic).result before with
      ⟨failure | written, middle⟩
    · rw [ran] at first
      refine ⟨[], List.nil_prefix, ?_, Adds.mono first fun _ => Crossed.head⟩
      intro succeeded
      cases succeeded
    · rw [ran] at first
      -- The other files find their places still open, in a workspace with the same home.
      have home : middle.home = before.home := Adds.home first
      have later : exporter.atomic = true → ∀ file ∈ files, exporter.Open middle file.1 :=
        fun atomic file member => (isOpen atomic file (List.mem_cons_of_mem _ member)).preserved first
          ((ordered.1 file member).aside atomic)
      obtain ⟨done, leading, complete, added⟩ := ih later (home ▸ ordered.2)
      rw [home] at added
      have apart := not_mem_deliveries fun file member =>
        (ordered.1 file (leading.subset member)).place
      refine ⟨(path, content) :: done, List.cons_prefix_cons.mpr ⟨rfl, leading⟩, ?_, ?_⟩
      · intro succeeded
        rw [complete succeeded]
      · refine Adds.trans (Adds.mono first fun _ => Crossed.head)
          (added.mono fun _ => Crossed.tail) ?_
        intro file member
        rw [List.mem_singleton.mp member]
        exact apart

/-- What the manifest of an export puts into the tree, if the settings ask for it. -/
def manifestDelivery (exporter : Exporter) (home : Location) (manifest : Manifest) :
    List (Location × ByteArray) :=
  if exporter.settings.writeManifest then
    [exporter.delivery home (manifestName, manifest.render 2)]
  else []

theorem not_mem_manifestDelivery {home asked : Location} {manifest : Manifest}
    (apart : asked ≠ exporter.location home manifestName) :
    asked ∉ (exporter.manifestDelivery home manifest).map Prod.fst := by
  rw [manifestDelivery]
  split
  · exact fun listed => apart (List.mem_singleton.mp listed)
  · exact List.not_mem_nil

theorem writeManifest_attempts (real : exporter.dryRun = false) (manifest : Manifest)
    (isOpen : exporter.atomic = true → exporter.settings.writeManifest = true →
      exporter.Open before manifestName) :
    before.Attempts (exporter.manifestDelivery before.home manifest)
      ((exporter.target manifestName).parent.Crosses before.home)
      ((exporter.writeManifest manifest).result before) := by
  unfold writeManifest manifestDelivery
  by_cases asked : exporter.settings.writeManifest = true
  · simp only [asked, real, Bool.not_false, Bool.and_self, ↓reduceIte, Action.result_bind]
    have wrote := writeText_target (fun atomic => isOpen atomic asked) (manifest.render 2)
    rcases ran : (Action.writeText (exporter.target manifestName) (manifest.render 2)
      exporter.atomic).result before with ⟨failure | written, after⟩
    · rw [ran] at wrote
      exact wrote
    · rw [ran] at wrote
      exact Adds.congr wrote rfl rfl
  · simp only [asked, Bool.false_and, Bool.false_eq_true, ↓reduceIte]
    exact Adds.refl before _

-- Only the time that it took is not told by the files and the exporter.
theorem result_of_run {files : FileSet} {result : ExportResult} {after : Workspace}
    (ran : (exporter.run files).result before = (.ok result, after)) : ∃ elapsed, result =
      { manifest := .ofRecords files.records
        output := exporter.output
        dryRun := exporter.dryRun
        written := if exporter.dryRun then [] else files.sorted.map Prod.fst
        elapsed } := by
  obtain ⟨⟨_, timer⟩, middle, -, concluded⟩ := Action.of_result_bind_ok ran
  obtain ⟨_, later, -, ended⟩ := Action.of_result_bind_ok concluded
  cases ended
  exact ⟨timer.elapsed, rfl⟩

theorem manifest_of_run {files : FileSet} {result : ExportResult} {after : Workspace}
    (ran : (exporter.run files).result before = (.ok result, after)) :
    result.manifest = .ofRecords files.records := by
  obtain ⟨elapsed, rfl⟩ := result_of_run ran
  rfl

-- An export that succeeds has written all its files and then the manifest of their records.
theorem run_ok {files : FileSet} {result : ExportResult} {after : Workspace}
    (ran : (exporter.run files).result before = (.ok result, after)) :
    ∃ middle last, (exporter.writeAll files.sorted).result before = (.ok (), middle) ∧
      (exporter.writeManifest result.manifest).result middle = (.ok (), last) ∧
      after.tree = last.tree ∧ after.home = last.home := by
  obtain ⟨last, ⟨_, wrote⟩, same⟩ := (exporter.run_amountsTo_writing files).leaves ⟨result, ran⟩
  obtain ⟨_, middle, all, noted⟩ := Action.of_result_bind_ok wrote
  rw [manifest_of_run ran]
  exact ⟨middle, last, all, noted, same.tree, same.home⟩

-- An export that fails has failed in one of its files, or in the manifest after all of them.
theorem run_failed {files : FileSet} {failure : Failure} {after : Workspace}
    (ran : (exporter.run files).result before = (.error failure, after)) :
    (∃ last, (exporter.writeAll files.sorted).result before = (.error failure, last) ∧
      after.tree = last.tree ∧ after.home = last.home) ∨
    ∃ middle last, (exporter.writeAll files.sorted).result before = (.ok (), middle) ∧
      (exporter.writeManifest (Manifest.ofRecords files.records)).result middle =
        (.error failure, last) ∧
      after.tree = last.tree ∧ after.home = last.home := by
  obtain ⟨other, last, later, failed, wrote, same⟩ | ⟨_, _, _, _, succeeded, -, -⟩ :=
    (exporter.run_amountsTo_writing files).result_cases (.refl before)
  · rw [ran] at failed
    cases failed
    rcases Action.of_result_bind_error wrote with early | ⟨_, middle, all, noted⟩
    · exact .inl ⟨_, early, same.tree, same.home⟩
    · exact .inr ⟨middle, _, all, noted, same.tree, same.home⟩
  · rw [ran] at succeeded
    cases succeeded

end PrismaNest.Exporter
