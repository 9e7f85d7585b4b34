import PrismaNest.Proofs.Export.Delivered
import PrismaNest.Proofs.Generation.Selections

/-! Generating in several runs.

Runs for some names and then for others leave what one run for all of them leaves, in whichever
order they are made, and a run that is made again changes nothing. This takes that no file finds a
folder at its place. Otherwise it is moved into the folder under a temporary name, and the trees
are the same but for such names.
-/

set_option autoImplicit false

namespace PrismaNest

open Text Workspace PrismaNest.Action

theorem Exporter.Clear.not_strays {exporter : Exporter} {origin : Workspace} {path : String}
    (clear : exporter.Clear origin path) : ¬ exporter.Strays origin path := by
  rintro (there | passed)
  · rw [clear.noFolder] at there
    cases there
  · exact clear.notPassed passed

namespace Generator

variable {generator : Generator} {schema : Schema} {output : Option String}
  {names others : List String} {origin before after : Workspace} {done : FileSet}

/-- The export of a run into a folder that may be asked for. -/
def exporterTo (generator : Generator) (output : Option String) : Exporter :=
  generator.exporter (pathOr output generator.settings.outputDir)

theorem generate_amountsTo (generator : Generator) (schema : Schema) (output : Option String)
    (names : List String) : AmountsTo (generator.generate schema output names)
      ((generator.exporterTo output).run (generator.filesOf schema names)) :=
  generator.run_amountsTo schema _ _ names []

theorem tree_of_dry (dry : generator.dryRun = true)
    (left : Leaves (generator.generate schema output names) before after) :
    after.tree = before.tree := by
  obtain ⟨later, exported, same⟩ := (generator.generate_amountsTo schema output names).leaves left
  have dryExport : (generator.exporterTo output).dryRun = true := dry
  have kept := (Exporter.onlyLogs_run dryExport _).leaves exported
  rw [same.tree, kept.tree]

section
variable (labels : ∀ model ∈ schema.models, IsLabel model.folderName)
  (distinct : (schema.models.map Model.folderName).Nodup)
  (bare : generator.settings.writeManifest = false)
  (flat : Lacks '/' generator.settings.fileExtension) (real : generator.dryRun = false)
include labels distinct bare flat real

/-- A run writes its files, whatever runs have been made before. -/
theorem settled_generate (named : names ≠ []) (subset : done ⊆ generator.writer.files schema.models)
    (settled : (generator.exporterTo output).Settled origin done before)
    (left : Leaves (generator.generate schema output names) before after) :
    (generator.exporterTo output).Settled origin (done ++ generator.filesOf schema names) after := by
  obtain ⟨later, ⟨result, exported⟩, same⟩ :=
    (generator.generate_amountsTo schema output names).leaves left
  have separate : (generator.writer.files schema.models).Separate :=
    CodeWriter.separate_files labels flat
  exact (settled.run separate real rfl bare subset (filesOf_subset labels distinct named)
    exported).of_same_tree same.tree same.home

theorem settled_first (named : names ≠ [])
    (left : Leaves (generator.generate schema output names) before after) :
    (generator.exporterTo output).Settled before (generator.filesOf schema names) after :=
  settled_generate labels distinct bare flat real named (List.nil_subset _)
    (Exporter.Settled.refl _ before) left

theorem settled_second (named : names ≠ []) (otherNamed : others ≠ []) {middle : Workspace}
    (early : Leaves (generator.generate schema output names) before middle)
    (late : Leaves (generator.generate schema output others) middle after) :
    (generator.exporterTo output).Settled before (generator.filesOf schema (names ++ others)) after := by
  have first := settled_first labels distinct bare flat real named early
  have second := settled_generate labels distinct bare flat real otherNamed
    (filesOf_subset labels distinct named) first late
  refine second.congr fun file => ?_
  rw [List.mem_append]
  exact mem_filesOf_append labels distinct named otherNamed

end

/-- Whatever was there before: runs for some names and for others leave trees that are alike in either
order, and like one run for all of them; and a run that is made again leaves a tree like the first. -/
theorem generate_alike {text : String} {source : Option String}
    (distinct : ((Schema.ofText text source).models.map Model.folderName).Nodup)
    (bare : generator.settings.writeManifest = false)
    (flat : Lacks '/' generator.settings.fileExtension) (real : generator.dryRun = false)
    (output : Option String) (named : names ≠ []) (otherNamed : others ≠ []) (before : Workspace) :
    let schema := Schema.ofText text source
    let generate (names : List String) := generator.generate schema output names
    let Alike (names : List String) (first second : Workspace) :=
      (generator.exporterTo output).Alike before (generator.filesOf schema names) first.tree second.tree
    (∀ first one second other joint, Leaves (generate names) before first →
      Leaves (generate others) first one → Leaves (generate others) before second →
      Leaves (generate names) second other → Leaves (generate (names ++ others)) before joint →
      Alike (names ++ others) one other ∧ Alike (names ++ others) one joint) ∧
    (∀ first again, Leaves (generate names) before first → Leaves (generate names) first again →
      Alike names first again) := by
  intro schema generate Alike
  have labels : ∀ model ∈ schema.models, IsLabel model.folderName :=
    fun model member => (Schema.writable_of_mem_models member).isLabel_folderName
  constructor
  · intro first one second other joint start late early last all
    have ordered := settled_second labels distinct bare flat real named otherNamed start late
    have swap : ∀ file, file ∈ generator.filesOf schema (names ++ others) ↔
        file ∈ generator.filesOf schema (others ++ names) := by
      intro file
      rw [mem_filesOf_append labels distinct named otherNamed,
        mem_filesOf_append labels distinct otherNamed named, or_comm]
    have turned :=
      (settled_second labels distinct bare flat real otherNamed named early last).congr swap
    have whole := settled_first labels distinct bare flat real (by simp [named]) all
    exact ⟨ordered.alike turned, ordered.alike whole⟩
  · intro first again start late
    have once := settled_first labels distinct bare flat real named start
    have again : ∀ file, file ∈ generator.filesOf schema names ↔
        file ∈ generator.filesOf schema (names ++ names) := by
      intro file
      rw [mem_filesOf_append labels distinct named named, or_self]
    have twice := (settled_second labels distinct bare flat real named named start late).congr again
    exact once.alike twice

/-- Where no file finds a folder at its place, neither one that was there before nor one that the
output path passes through: runs for some names and for others leave the same tree in either order, and
the same as one run for all of them; and a run that is made again leaves the tree as it was. -/
theorem generate_incremental {text : String} {source : Option String}
    (distinct : ((Schema.ofText text source).models.map Model.folderName).Nodup)
    (bare : generator.settings.writeManifest = false)
    (flat : Lacks '/' generator.settings.fileExtension) (output : Option String)
    (named : names ≠ []) (otherNamed : others ≠ []) (before : Workspace)
    (clear : generator.dryRun = false →
      ∀ file ∈ generator.filesOf (Schema.ofText text source) (names ++ others),
        (generator.exporterTo output).Clear before file.1) :
    let schema := Schema.ofText text source
    let generate (names : List String) := generator.generate schema output names
    (∀ first one second other joint, Leaves (generate names) before first →
      Leaves (generate others) first one → Leaves (generate others) before second →
      Leaves (generate names) second other → Leaves (generate (names ++ others)) before joint →
      ∀ location, one.tree.lookUp? location = other.tree.lookUp? location ∧
        one.tree.lookUp? location = joint.tree.lookUp? location) ∧
    (∀ first again, Leaves (generate names) before first → Leaves (generate names) first again →
      ∀ location, again.tree.lookUp? location = first.tree.lookUp? location) := by
  intro schema generate
  cases real : generator.dryRun with
  | true =>
    constructor
    · intro first one second other joint start late early last all location
      have tree := (tree_of_dry real late).trans (tree_of_dry real start)
      rw [tree, (tree_of_dry real last).trans (tree_of_dry real early), tree_of_dry real all]
      exact ⟨rfl, rfl⟩
    · intro first again start late location
      rw [tree_of_dry real late]
  | false =>
    have labels : ∀ model ∈ schema.models, IsLabel model.folderName :=
      fun model member => (Schema.writable_of_mem_models member).isLabel_folderName
    have proper : ∀ file ∈ generator.filesOf schema (names ++ others),
        ¬ (generator.exporterTo output).Strays before file.1 :=
      fun file member => (clear real file member).not_strays
    have properFirst : ∀ file ∈ generator.filesOf schema names,
        ¬ (generator.exporterTo output).Strays before file.1 := fun file member =>
      proper file ((mem_filesOf_append labels distinct named otherNamed).mpr (.inl member))
    obtain ⟨orders, again⟩ :=
      generate_alike distinct bare flat real output named otherNamed before
    constructor
    · intro first one second other joint start late early last all location
      have alike := orders first one second other joint start late early last all
      exact ⟨alike.1.lookUp?_eq proper location, alike.2.lookUp?_eq proper location⟩
    · intro first last start late location
      exact ((again first last start late).lookUp?_eq properFirst location).symm

-- A run succeeds where its export does, and leaves what the export leaves.
theorem exists_leaves {start : Workspace} (same : before.SameFiles start)
    (succeeds : (((generator.exporterTo output).run
      (generator.filesOf schema names)).result start).1.isOk = true) :
    ∃ after, Leaves (generator.generate schema output names) before after ∧ after.SameFiles
      (((generator.exporterTo output).run (generator.filesOf schema names)).result start).2 := by
  obtain ⟨failure, after, later, -, failed, -⟩ | ⟨report, result, after, later, ran, exported, left⟩ :=
    (generator.generate_amountsTo schema output names).result_cases same
  · rw [failed] at succeeds
    cases succeeds
  · rw [exported]
    exact ⟨after, ⟨report, ran⟩, left⟩

/-- Two models, written one after the other in either order and at once into a new folder. -/
theorem generate_incremental_two_models :
    let generator : Generator := ⟨.ofSettings { outputDir := "out", generateCommon := false }, false⟩
    let schema := Schema.ofText "model A \x7b\n\x7d\nmodel B \x7b\n\x7d" none
    let before : Workspace := ⟨⟨[]⟩, [], .zero false, []⟩
    let generate (names : List String) := generator.generate schema none names
    ∃ first one second other joint, Leaves (generate ["A"]) before first ∧
      Leaves (generate ["B"]) first one ∧ Leaves (generate ["B"]) before second ∧
      Leaves (generate ["A"]) second other ∧ Leaves (generate (["A"] ++ ["B"])) before joint ∧
      ∀ location, one.tree.lookUp? location = other.tree.lookUp? location ∧
        one.tree.lookUp? location = joint.tree.lookUp? location := by
  intro generator schema before generate
  let exporting (names : List String) :=
    (generator.exporterTo none).run (generator.filesOf schema names)
  have succeed :
      ((exporting ["A"]).result before).1.isOk = true ∧
      ((exporting ["B"]).result ((exporting ["A"]).result before).2).1.isOk = true ∧
      ((exporting ["B"]).result before).1.isOk = true ∧
      ((exporting ["A"]).result ((exporting ["B"]).result before).2).1.isOk = true ∧
      ((exporting (["A"] ++ ["B"])).result before).1.isOk = true := by
    simp only [exporting, Exporter.run, FileSet.records, filesOf,
      FileSet.sorted_eq_insertionSort (CodeWriter.nodup_files _)]
    decide +kernel
  obtain ⟨firstOk, oneOk, secondOk, otherOk, jointOk⟩ := succeed
  obtain ⟨first, start, sameFirst⟩ := exists_leaves (.refl before) firstOk
  obtain ⟨one, late, -⟩ := exists_leaves sameFirst oneOk
  obtain ⟨second, early, sameSecond⟩ := exists_leaves (.refl before) secondOk
  obtain ⟨other, last, -⟩ := exists_leaves sameSecond otherOk
  obtain ⟨joint, all, -⟩ := exists_leaves (.refl before) jointOk
  have distinct : (schema.models.map Model.folderName).Nodup := by
    decide +kernel
  have flat : Lacks '/' generator.settings.fileExtension := by
    decide
  have named : ["A"] ≠ [] := by
    decide
  have otherNamed : ["B"] ≠ [] := by
    decide
  have clear : generator.dryRun = false → ∀ file ∈ generator.filesOf schema (["A"] ++ ["B"]),
      (generator.exporterTo none).Clear before file.1 := by
    intro _ file member
    have checked : ∀ file ∈ generator.filesOf schema (["A"] ++ ["B"]),
        before.tree.isFolder ((generator.exporterTo none).location before.home file.1) = false ∧
          ¬ (generator.exporterTo none).output.Crosses before.home
            ((generator.exporterTo none).location before.home file.1) := by
      decide +kernel
    exact ⟨(checked file member).1, (checked file member).2⟩
  exact ⟨first, one, second, other, joint, start, late, early, last, all,
    (generate_incremental distinct rfl flat none named otherNamed before clear).1
      first one second other joint start late early last all⟩

/-- The output path passes through the place of the module. Its folder is made first, so that the
module goes into it under a temporary name; a second run puts it there once more. -/
theorem not_incremental_passed_folder :
    let generator : Generator := ⟨.ofSettings { generateCommon := false }, false⟩
    let schema := Schema.ofText "model A \x7b\n\x7d" none
    let output := some "a/a.module.ts/../.."
    let before : Workspace := ⟨⟨[(["home"], .folder)]⟩, ["home"], .zero false, []⟩
    let generate := generator.generate schema output ["A"]
    let second := ["home", "a", "a.module.ts", ".a.module.ts.RANDOM1.tmp"]
    (schema.models.map Model.folderName).Nodup ∧ generator.settings.writeManifest = false ∧
      Lacks '/' generator.settings.fileExtension ∧
      (∀ file ∈ generator.filesOf schema ["A"],
        before.tree.isFolder ((generator.exporterTo output).location before.home file.1) = false) ∧
      ∃ first again, Leaves generate before first ∧ Leaves generate first again ∧
        first.tree.lookUp? second = none ∧ again.tree.lookUp? second ≠ none := by
  intro generator schema output before generate second
  let exporting := (generator.exporterTo output).run (generator.filesOf schema ["A"])
  have runs : (exporting.result before).1.isOk = true ∧
      (exporting.result (exporting.result before).2).1.isOk = true ∧
      (exporting.result before).2.tree.lookUp? second = none ∧
      ((exporting.result (exporting.result before).2).2.tree.lookUp? second).isSome = true := by
    simp only [exporting, Exporter.run, FileSet.records, filesOf,
      FileSet.sorted_eq_insertionSort (CodeWriter.nodup_files _)]
    decide +kernel
  obtain ⟨firstOk, againOk, absent, there⟩ := runs
  obtain ⟨first, start, sameFirst⟩ := exists_leaves (.refl before) firstOk
  obtain ⟨again, late, sameAgain⟩ := exists_leaves sameFirst againOk
  refine ⟨by decide +kernel, by decide, by decide, by decide +kernel, first, again, start, late, ?_, ?_⟩
  · rw [sameFirst.tree]
    exact absent
  · rw [sameAgain.tree]
    exact Option.isSome_iff_ne_none.mp there

end Generator

end PrismaNest
