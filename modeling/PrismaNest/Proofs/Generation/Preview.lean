import PrismaNest.Proofs.Generation.Incremental
import PrismaNest.Proofs.Workspace.Clock

/-! Dry runs.

A dry run logs what a run would write, and changes nothing. What a run reports depends on its schema,
its settings and the names asked for, not on what it has written. So a dry run reports beforehand
what the run reports that gets to its end.
-/

set_option autoImplicit false

namespace PrismaNest

open Workspace PrismaNest.Action

namespace Exporter

variable {exporter : Exporter} {files : FileSet} {before after : Workspace}

theorem readsClock_writeFile (exporter : Exporter) (file : String × String) :
    ReadsClock 0 (exporter.writeFile file) := by
  rw [writeFile]
  split
  · exact readsClock_log _ _ _
  · exact (readsClock_writeText _ _ _).bind fun _ => readsClock_pure _

theorem readsClock_writeAll (exporter : Exporter) (files : FileSet) :
    ReadsClock 0 (exporter.writeAll files) := by
  induction files with
  | nil => exact readsClock_pure _
  | cons file files ih => exact (exporter.readsClock_writeFile file).bind fun _ => ih

theorem readsClock_writeManifest (exporter : Exporter) (manifest : Manifest) :
    ReadsClock 0 (exporter.writeManifest manifest) := by
  rw [writeManifest]
  split
  · exact (readsClock_writeText _ _ _).bind fun _ => readsClock_log _ _ _
  · exact readsClock_pure _

theorem readsClock_run (exporter : Exporter) (files : FileSet) :
    ReadsClock 2 (exporter.run files) := by
  have writes : ReadsClock 0 (exporter.writing files) :=
    (exporter.readsClock_writeAll _).bind fun _ => exporter.readsClock_writeManifest _
  exact (writes.timed _).bind fun _ => (readsClock_log _ _ _).bind fun _ => readsClock_pure _

end Exporter

namespace Generator

variable {generator : Generator} {before after : Workspace} {schema : Schema} {schemaFile : String}
  {output : Path} {names : List String} {steps : List Step} {report : Report}

theorem result_missing (schema : Schema) (names : List String) (before : Workspace) :
    ((missing schema names).result before).1 = .ok (schema.missing names) := by
  rw [missing]
  dsimp only
  split <;> rfl

theorem readsClock_missing (schema : Schema) (names : List String) :
    ReadsClock 0 (missing schema names) := by
  rw [missing]
  dsimp only
  split
  · exact (readsClock_log _ _ _).bind fun _ => readsClock_pure _
  · exact readsClock_pure _

theorem readsClock_render (writer : CodeWriter) (models : List Model) :
    ReadsClock 0 (writer.render models) := by
  refine readsClock_zero fun before => ?_
  rw [CodeWriter.result_render]

/-- What a run reports. It reads the clock first and last, and before and after the rendering and the
export, which reads it twice itself. -/
def reportAt (generator : Generator) (clock : Clock) (schema : Schema) (schemaFile : String)
    (output : Path) (names : List String) (steps : List Step) : Report :=
  let files := generator.filesOf schema names
  let models := generator.selection schema names
  let manifest := Manifest.ofRecords files.records
  { schemaFile
    outputFolder := output.toText
    dryRun := generator.dryRun
    found := schema.modelNames
    generated := models.map Model.name
    missing := schema.missing names
    totalFiles := manifest.totalFiles
    totalBytes := manifest.totalBytes
    totalLines := manifest.totalLines
    elapsed := (clock.times 7).sub (clock.times 0)
    steps := steps ++ [
      ⟨"Render", (clock.times 2).sub (clock.times 1),
        toString files.length ++ " files for " ++ toString models.length ++ " models"⟩,
      ⟨"Export", (clock.times 6).sub (clock.times 3), grouped manifest.totalBytes ++ " bytes"⟩]
    manifest := some manifest }

theorem report_of_run
    (ran : (generator.run schema schemaFile output names steps).result before = (.ok report, after)) :
    report = generator.reportAt before.clock schema schemaFile output names steps ∧
      after.clock = before.clock.after 8 := by
  rw [run] at ran
  obtain ⟨_, begun, started, ran⟩ := of_result_bind_ok ran
  cases started
  obtain ⟨lacking, asked, wanted, ran⟩ := of_result_bind_ok ran
  obtain ⟨⟨files, rendering⟩, rendered, drawn, ran⟩ := of_result_bind_ok ran
  obtain ⟨exporter, created, made, ran⟩ := of_result_bind_ok ran
  obtain ⟨⟨result, exporting⟩, exported, wrote, ran⟩ := of_result_bind_ok ran
  obtain ⟨_, stopped, ended, ran⟩ := of_result_bind_ok ran
  cases ended
  obtain ⟨_, logged, last, ran⟩ := of_result_bind_ok ran
  cases ran
  cases last
  cases made
  have clockAsked := (readsClock_missing schema names).of_ran wanted
  have lack : lacking = schema.missing names := by
    have given := result_missing schema names before.clockRead
    rw [wanted] at given
    exact Except.ok.inj given
  obtain ⟨⟨_, drew⟩, renderTime, clockRendered⟩ := of_timed_ok
    (readsClock_render generator.writer _) drawn
  obtain ⟨⟨_, done⟩, exportTime, clockExported⟩ := of_timed_ok (Exporter.readsClock_run _ _) wrote
  rw [CodeWriter.result_render] at drew
  cases drew
  have manifest := Exporter.manifest_of_run done
  -- Each stage starts at the reading at which the one before it has ended.
  simp only [clockRead, Clock.after_after] at clockAsked
  simp only [clockAsked, Clock.times_after, Clock.after_after] at renderTime clockRendered
  simp only [clockRendered, Clock.times_after, Clock.after_after] at exportTime clockExported
  constructor
  · simp only [reportAt, filesOf, manifest, lack, renderTime, exportTime, clockExported,
      Clock.times_after, Nat.add_zero]
  · simp only [clockRead, clockExported, Clock.after_after]

-- A run can only fail in its export, when all but the last reading have been made.
theorem clock_of_run_failed {failure : Failure}
    (ran : (generator.run schema schemaFile output names steps).result before =
      (.error failure, after)) : after.clock = before.clock.after 7 := by
  rw [run] at ran
  rcases of_result_bind_error ran with early | ⟨_, begun, started, ran⟩
  · cases early
  cases started
  rcases of_result_bind_error ran with early | ⟨lacking, asked, wanted, ran⟩
  · exact absurd early (onlyLogs_missing schema names).not_failed
  rcases of_result_bind_error ran with early | ⟨⟨files, rendering⟩, rendered, drawn, ran⟩
  · exact absurd early ((generator.writer.onlyLogs_render _).timed _).not_failed
  rcases of_result_bind_error ran with early | ⟨exporter, created, made, ran⟩
  · cases early
  cases made
  have clockAsked := (readsClock_missing schema names).of_ran wanted
  have clockRendered := ((readsClock_render generator.writer _).timed _).of_ran drawn
  simp only [clockRead, Clock.after_after] at clockAsked
  simp only [clockAsked, Clock.after_after] at clockRendered
  rcases of_result_bind_error ran with failed | ⟨exported, written, wrote, ran⟩
  · have clockExported := ((Exporter.readsClock_run _ _).timed _).of_ran failed
    simp only [clockRendered, Clock.after_after] at clockExported
    exact clockExported
  · rcases of_result_bind_error ran with early | ⟨_, stopped, ended, ran⟩
    · cases early
    · cases ended
      rcases of_result_bind_error ran with early | ⟨_, logged, last, ran⟩
      · cases early
      · cases ran

theorem onlyLogs_run {generator : Generator} (dry : generator.dryRun = true) (schema : Schema)
    (schemaFile : String) (output : Path) (names : List String) (steps : List Step) :
    OnlyLogs (generator.run schema schemaFile output names steps) :=
  (generator.run_amountsTo schema schemaFile output names steps).onlyLogs
    (Exporter.onlyLogs_run dry _)

end Generator

/-- A step without the time that it took. -/
def Step.timeless (step : Step) : Step :=
  { step with elapsed := .zero false }

namespace Report

/-- A report without the times that it tells. -/
def timeless (report : Report) : Report :=
  { report with elapsed := .zero false, steps := report.steps.map Step.timeless }

/-- The line of a summary by which a dry run is told. -/
def dryLine : String :=
  "  Mode:             dry-run (nothing written)"

theorem summaryLines_dryRun {report : Report} (wet : report.dryRun = false) : ∃ below,
    report.summaryLines = report.headLines ++ below ∧
      { report with dryRun := true }.summaryLines = report.headLines ++ dryLine :: below := by
  refine ⟨report.summaryLines.drop report.headLines.length, ?_, ?_⟩
  · simp [summaryLines, wet, headLines]
  · simp [summaryLines, wet, headLines, countLines, dryLine]

end Report

namespace Generator

/-- A dry run leaves the tree as it is, and says beforehand what a run reports that starts from the
same files, whenever that may be, and gets to its end. But for the times they differ in the mark that
nothing is written, which is one line of the summary. -/
structure Previews (dry wet : Action Report) (before : Workspace) : Prop where
  tree : (dry.result before).2.tree = before.tree
  report : ∀ other, before.SameFiles other → ∀ report after, wet.result other = (.ok report, after) →
    report.dryRun = false ∧ ∃ foreseen, (dry.result before).1 = .ok foreseen ∧
      foreseen.timeless = { report.timeless with dryRun := true } ∧
      ∃ below, report.timeless.summaryLines = report.headLines ++ below ∧
        foreseen.timeless.summaryLines = report.headLines ++ Report.dryLine :: below

theorem run_previews (writer : CodeWriter) (schema : Schema) (schemaFile : String) (output : Path)
    (names : List String) {steps others : List Step}
    (alike : steps.map Step.timeless = others.map Step.timeless) (before : Workspace) :
    Previews (run ⟨writer, true⟩ schema schemaFile output names steps)
      (run ⟨writer, false⟩ schema schemaFile output names others) before := by
  obtain ⟨foreseen, after, ran, same⟩ :=
    @onlyLogs_run ⟨writer, true⟩ rfl schema schemaFile output names steps before
  refine ⟨by rw [ran]; exact same.tree.symm, fun other sameFiles report later done => ?_⟩
  obtain ⟨preview, -⟩ := report_of_run ran
  obtain ⟨real, -⟩ := report_of_run done
  have wet : report.dryRun = false := by
    rw [real]
    rfl
  have agree : foreseen.timeless = { report.timeless with dryRun := true } := by
    rw [preview, real]
    simp only [reportAt, Report.timeless, List.map_append, alike]
    rfl
  refine ⟨wet, foreseen, by rw [ran], agree, ?_⟩
  rw [agree]
  exact @Report.summaryLines_dryRun report.timeless wet

-- What comes first in both runs only reads, and gives the same to both but for times.
theorem Previews.after {α : Type} {first : Action α} {dry wet : α → Action Report}
    {alike : α → α → Prop} {before : Workspace} (kept : Keeps SameFiles first)
    (gives : ∀ before other, SameFiles before other → ∀ given after,
      first.result other = (.ok given, after) →
        ∃ foreseen later, first.result before = (.ok foreseen, later) ∧ alike foreseen given)
    (later : ∀ foreseen given middle, alike foreseen given →
      Previews (dry foreseen) (wet given) middle) :
    Previews (first >>= dry) (first >>= wet) before := by
  constructor
  · rcases ran : first.result before with ⟨failure | value, middle⟩
    · rw [result_bind, ran]
      exact (kept.of_ran ran).tree.symm
    · obtain ⟨foreseen, again, ranAgain, matching⟩ := gives before before (.refl before) _ _ ran
      rw [ran] at ranAgain
      cases ranAgain
      rw [result_bind, ran]
      exact (later value value middle matching).tree.trans (kept.of_ran ran).tree.symm
  · intro other same report after done
    obtain ⟨given, middle, ranOther, done⟩ := of_result_bind_ok done
    obtain ⟨foreseen, begun, ran, matching⟩ := gives before other same given middle ranOther
    have files : begun.SameFiles middle :=
      (kept.of_ran ran).symm.trans (same.trans (kept.of_ran ranOther))
    rw [result_bind, ran]
    exact (later foreseen given begun matching).report middle files report after done

/-- The step that a run reports for the reading of its schema. -/
def readStep (given : Schema × Timer) : Step :=
  ⟨"Parse Schema", given.2.elapsed, toString given.1.models.length ++ " models, "
    ++ toString given.1.enums.length ++ " enums"⟩

theorem generateFromFile_eq (generator : Generator) (schemaPath output : Option String)
    (names : List String) : generator.generateFromFile schemaPath output names =
      let path := pathOr schemaPath generator.settings.schemaPath
      timed "parse_schema" (Schema.load path.toText) >>= fun given =>
        generator.run given.1 path.toText (pathOr output generator.settings.outputDir) names
          [readStep given] :=
  rfl

/-- A dry run is a faithful preview, of a schema at hand as of one that is read first. -/
theorem generate_previews (writer : CodeWriter) (output : Option String) (names : List String)
    (before : Workspace) :
    (∀ schema, Previews (generate ⟨writer, true⟩ schema output names)
        (generate ⟨writer, false⟩ schema output names) before) ∧
      ∀ schemaPath, Previews (generateFromFile ⟨writer, true⟩ schemaPath output names)
        (generateFromFile ⟨writer, false⟩ schemaPath output names) before := by
  refine ⟨fun schema => run_previews writer _ _ _ _ rfl before, fun schemaPath => ?_⟩
  have reads := Schema.reads_load (pathOr schemaPath writer.settings.schemaPath).toText
  rw [generateFromFile_eq, generateFromFile_eq]
  refine Previews.after (keeps_timed reads.keeps _)
    (fun _ _ same => gives_timed reads.sees _ same) ?_
  rintro ⟨schema, reading⟩ ⟨_, other⟩ middle rfl
  have alike : [readStep (schema, reading)].map Step.timeless =
      [readStep (schema, other)].map Step.timeless := rfl
  exact run_previews writer schema _ _ names alike middle

/-- A run into a new folder, previewed when the clock stood still and made while it goes on; and one
that a file keeps from writing. Both have the same preview. -/
theorem generate_previews_blocked :
    let writer : CodeWriter := .ofSettings { outputDir := "out", generateCommon := false }
    let schema := Schema.ofText "model A \x7b\n\x7d" none
    let free : Workspace := ⟨⟨[]⟩, [], .zero false, []⟩
    let later : Workspace := { free with clock := ⟨fun reading => .ofInt reading⟩ }
    let blocked : Workspace := ⟨⟨[(["out"], .file "kept".toUTF8)]⟩, [], .zero false, []⟩
    let dry := generate ⟨writer, true⟩ schema none []
    let wet := generate ⟨writer, false⟩ schema none []
    (∃ foreseen report after, (dry.result free).1 = .ok foreseen ∧
        wet.result later = (.ok report, after) ∧ foreseen.elapsed ≠ report.elapsed ∧
        foreseen.timeless = { report.timeless with dryRun := true }) ∧
      (dry.result free).2.tree = free.tree ∧ (wet.result blocked).1.isOk = false ∧
      (dry.result blocked).2.tree = blocked.tree := by
  intro writer schema free later blocked dry wet
  let generator : Generator := ⟨writer, false⟩
  let exporting := (generator.exporterTo none).run (generator.filesOf schema [])
  have ends : (exporting.result later).1.isOk = true ∧ (exporting.result blocked).1.isOk = false := by
    simp only [exporting, Exporter.run, FileSet.records, filesOf,
      FileSet.sorted_eq_insertionSort (CodeWriter.nodup_files _)]
    decide +kernel
  obtain ⟨after, ⟨report, done⟩, -⟩ := exists_leaves (.refl later) ends.1
  have previews := (generate_previews writer none [] free).1 schema
  obtain ⟨-, foreseen, gave, alike, -⟩ := previews.report later ⟨rfl, rfl⟩ report after done
  have apart : foreseen.elapsed ≠ report.elapsed := by
    obtain ⟨preview, -⟩ := report_of_run (Prod.ext gave rfl)
    obtain ⟨real, -⟩ := report_of_run done
    rw [preview, real]
    decide +kernel
  have refused : (wet.result blocked).1.isOk = false := by
    obtain ⟨failure, middle, last, ran, -, -⟩ | ⟨value, result, middle, last, -, exported, -⟩ :=
      (generator.generate_amountsTo schema none []).result_cases (.refl blocked)
    · rw [ran]
      rfl
    · have wrote := ends.2
      rw [exported] at wrote
      cases wrote
  exact ⟨⟨foreseen, report, after, gave, done, apart, alike⟩, previews.tree, refused,
    ((generate_previews writer none [] blocked).1 schema).tree⟩

end Generator

end PrismaNest
