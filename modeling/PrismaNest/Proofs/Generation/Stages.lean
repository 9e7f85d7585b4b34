import PrismaNest.Proofs.Artifact.Collisions
import PrismaNest.Proofs.Export.Steps
import PrismaNest.Proofs.Workspace.Reading

/-! The stages of a generation run.

A run reads the schema and writes the files of the selected models. All else that it does is to
log and to read the clock; so it fails where its export fails, and leaves the tree that its export
leaves.
-/

set_option autoImplicit false

namespace PrismaNest

open Workspace PrismaNest.Action

theorem Schema.reads_logReading (schema : Schema) (text : String) : Reads (schema.logReading text) := by
  refine Reads.bind ?_ fun _ => reads_log _ _ _
  induction Schema.remarks text with
  | nil => exact reads_pure ()
  | cons remark remarks ih => exact (reads_log _ _ _).bind fun _ => ih

theorem Schema.reads_load (given : String) : Reads (Schema.load given) := by
  refine (reads_readText _).bind fun text => (reads_log _ _ _).bind fun _ => ?_
  exact (Schema.reads_logReading _ text).bind fun _ => reads_pure _

theorem Schema.onlyLogs_logReading (schema : Schema) (text : String) :
    OnlyLogs (schema.logReading text) := by
  refine OnlyLogs.bind ?_ fun _ => onlyLogs_log _ _ _
  induction Schema.remarks text with
  | nil => exact onlyLogs_pure ()
  | cons remark remarks ih => exact (onlyLogs_log _ _ _).bind fun _ => ih

-- A file that can be read is parsed, whatever its text is.
theorem Schema.load_of_readText {given text : String} {before middle : Workspace}
    (read : (readText (Path.ofText given)).result before = (.ok text, middle)) :
    ((Schema.load given).result before).1 = .ok (Schema.ofText text (some given)) := by
  rw [Schema.load, result_bind, read]
  refine (onlyLogs_log _ _ _).gives fun _ _ => ?_
  exact (Schema.onlyLogs_logReading _ text).gives fun _ _ => rfl

/-- A schema that is loaded comes from some text, of a file that is there. -/
theorem Schema.of_load {given : String} {before : Workspace} {schema : Schema}
    (loaded : ((Schema.load given).result before).1 = .ok schema) :
    (Path.ofText given).hasNull = false ∧ before.HasFile (Path.ofText given) ∧
      ∃ text source, schema = Schema.ofText text source := by
  rcases read : (readText (Path.ofText given)).result before with ⟨failure | text, middle⟩
  · rw [Schema.load, result_bind, read] at loaded
    cases loaded
  · obtain ⟨plain, there⟩ := hasFile_of_readText (congrArg Prod.fst read)
    rw [Schema.load_of_readText read] at loaded
    exact ⟨plain, there, text, some given, (Except.ok.inj loaded).symm⟩

theorem CodeWriter.onlyLogs_render (writer : CodeWriter) (models : List Model) :
    OnlyLogs (writer.render models) :=
  fun before => ⟨_, _, writer.result_render models before, rfl, rfl⟩

namespace Generator

/-- The export of a run. -/
def exporter (generator : Generator) (output : Path) : Exporter :=
  ⟨generator.settings, output, true, generator.dryRun⟩

/-- The files that a run writes for some names. -/
def filesOf (generator : Generator) (schema : Schema) (names : List String) : FileSet :=
  generator.writer.files (generator.selection schema names)

theorem onlyLogs_missing (schema : Schema) (names : List String) :
    OnlyLogs (missing schema names) := by
  rw [missing]
  dsimp only
  split
  · exact (onlyLogs_log _ _ _).bind fun _ => onlyLogs_pure _
  · exact onlyLogs_pure _

theorem onlyLogs_create (settings : Settings) (output : Path) (atomic dryRun : Bool) :
    OnlyLogs (Exporter.create settings output atomic dryRun) :=
  (onlyLogs_log _ _ _).bind fun _ => onlyLogs_pure _

theorem run_amountsTo (generator : Generator) (schema : Schema) (schemaFile : String) (output : Path)
    (names : List String) (steps : List Step) :
    AmountsTo (generator.run schema schemaFile output names steps)
      ((generator.exporter output).run (generator.filesOf schema names)) := by
  refine onlyLogs_readClock.before_core fun _ _ _ _ => ?_
  refine (onlyLogs_missing schema names).before_core fun _ _ _ _ => ?_
  refine ((generator.writer.onlyLogs_render _).timed _).before_core fun rendered before after ran => ?_
  have files : rendered.1 = generator.filesOf schema names := by
    rw [result_timed, CodeWriter.result_render] at ran
    cases ran
    rfl
  refine (onlyLogs_create generator.settings output true generator.dryRun).before_core
    fun created before after ran => ?_
  cases ran
  rw [← files]
  refine AmountsTo.and_logs ((Exporter.run_amountsTo_self _ _).timed _) fun _ => ?_
  exact onlyLogs_readClock.bind fun _ => (onlyLogs_log _ _ _).bind fun _ => onlyLogs_pure _

/-- Reading the schema that the settings name. -/
def readSchema (generator : Generator) : Action Schema :=
  Schema.load (Path.ofText generator.settings.schemaPath).toText

theorem reads_readSchema (generator : Generator) : Reads generator.readSchema :=
  Schema.reads_load _

variable {generator : Generator}

-- Without its schema, a run fails as the reading of it does, and changes nothing.
theorem generateFromFile_unread {before : Workspace} {failure : Failure}
    (unread : (generator.readSchema.result before).1 = .error failure) (names : List String) :
    let ran := (generator.generateFromFile none none names).result before
    ran.1 = .error failure ∧ before.SameFiles ran.2 := by
  obtain ⟨after, read, kept⟩ := generator.reads_readSchema.ran (.clockRead before) unread
  have loaded : (Schema.load (pathOr none generator.settings.schemaPath).toText).result
      before.clockRead = (.error failure, after) := read
  simp only [generateFromFile, result_bind, result_timed, loaded, Except.map]
  exact ⟨trivial, kept.tree, kept.home⟩

-- With its schema, a run fails as its export does, and leaves what the export leaves.
theorem generateFromFile_read {before : Workspace} {schema : Schema}
    (known : (generator.readSchema.result before).1 = .ok schema) (names : List String) :
    let exported := ((generator.exporter (Path.ofText generator.settings.outputDir)).run
      (generator.filesOf schema names)).result before
    let ran := (generator.generateFromFile none none names).result before
    (∀ failure, ran.1 = .error failure ↔ exported.1 = .error failure) ∧
      ran.2.SameFiles exported.2 := by
  obtain ⟨after, read, kept⟩ := generator.reads_readSchema.ran (.clockRead before) known
  have loaded : (Schema.load (pathOr none generator.settings.schemaPath).toText).result
      before.clockRead = (.ok schema, after) := read
  simp only [generateFromFile, result_bind, result_timed, loaded, Except.map]
  apply generator.run_amountsTo
  exact ⟨kept.tree.symm, kept.home.symm⟩

end Generator

end PrismaNest
