import PrismaNest.Command.Generate
import PrismaNest.Proofs.Export.Faults
import PrismaNest.Proofs.Generation.Stages

/-! How a command runs what is asked for.

A command reads its settings and its schema and writes its output. It ends as its run does; if the
output cannot be written, it leaves what the export has left, and the path that the failure names
decides on the status.
-/

set_option autoImplicit false

namespace PrismaNest.GenerateCommand

open Text Workspace PrismaNest.Action

/-- What generates the files of a request. -/
def generatorOf (request : Request) (settings : Settings) : Generator :=
  ⟨.ofSettings settings, request.dryRun⟩

/-- Reading the schema of a request. -/
def readSchema (request : Request) (settings : Settings) : Action Schema :=
  (generatorOf request settings).readSchema

def exporterOf (request : Request) (settings : Settings) : Exporter :=
  (generatorOf request settings).exporter (Path.ofText settings.outputDir)

def filesOf (request : Request) (settings : Settings) (schema : Schema) : FileSet :=
  (generatorOf request settings).filesOf schema request.models

/-- Writing the output of a request. -/
def writeOutput (request : Request) (settings : Settings) (schema : Schema) : Action ExportResult :=
  (exporterOf request settings).run (filesOf request settings schema)

variable {request : Request} {settings : Settings} {schema : Schema}

theorem isLabel_of_readSchema {before : Workspace}
    (known : ((readSchema request settings).result before).1 = .ok schema) :
    ∀ model ∈ (generatorOf request settings).selection schema request.models,
      IsLabel model.folderName := by
  intro model member
  obtain ⟨-, -, text, source, rfl⟩ := Schema.of_load known
  have listed : model ∈ (Schema.ofText text source).models := by
    unfold Generator.selection Schema.select at member
    split at member
    · exact (List.mem_filter.mp member).1
    · split at member
      · exact List.mem_of_mem_take member
      · exact member
  exact (Schema.writable_of_mem_models listed).isLabel_folderName

theorem plain_of_writeOutput {before : Workspace} {failure : Failure}
    (known : ((readSchema request settings).result before).1 = .ok schema)
    (failed : ((writeOutput request settings schema).result before).1 = .error failure)
    (ofFiles : failure.isOfFiles = true) : (Path.ofText settings.outputDir).hasNull = false := by
  by_contra null
  have down : ∀ path ∈ (filesOf request settings schema).map Prod.fst, Path.GoesDown path :=
    CodeWriter.goesDown_of_mem_files (isLabel_of_readSchema known)
  have nowhere : (exporterOf request settings).output.hasNull = true := Bool.of_not_eq_false null
  have only := Exporter.failsOnlyWith_run nowhere down before failure failed
  rw [only] at ofFiles
  cases ofFiles

/-- The status for a run that fails. -/
def refusal (schema : Path) (failure : Failure) : ExitStatus :=
  if failure.isOfFiles = true ∧ failure.path?.map Path.ofText ≠ some schema then .writeFailure
  else .inputFailure

theorem result_refuseRun (path : Path) (failure : Failure) (before : Workspace) :
    ∃ after, (refuseRun path failure).result before = (.ok (refusal path failure, ""), after) ∧
      before.SameFiles after := by
  rw [refuseRun, refusal]
  by_cases ofFiles : failure.isOfFiles = true
  · by_cases same : failure.path?.map Path.ofText = some path
    · rw [if_pos ofFiles, if_pos same, if_neg fun other => other.2 same]
      exact ⟨_, rfl, rfl, rfl⟩
    · rw [if_pos ofFiles, if_neg same, if_pos ⟨ofFiles, same⟩]
      exact ⟨_, rfl, rfl, rfl⟩
  · rw [if_neg ofFiles, if_neg fun other => ofFiles other.1]
    exact ⟨_, rfl, rfl, rfl⟩

/-- The end of a command whose run has come to an end. -/
def ending (request : Request) (settings : Settings) :
    Except Failure Report × Workspace → Except Failure (ExitStatus × String) × Workspace
  | (.ok report, after) => (.ok (.success, if request.quiet then "" else report.summary ++ "\n"), after)
  | (.error failure, after) => (refuseRun (Path.ofText settings.schemaPath) failure).result after

/-- The run of a command, once its paths have been checked. -/
def runChecked (request : Request) (settings : Settings) : Action (ExitStatus × String) := do
  let generator ← Generator.create settings request.dryRun
  match ← attempt (generator.generateFromFile none none request.models) with
  | .ok report => return (.success, if request.quiet then "" else report.summary ++ "\n")
  | .error failure => refuseRun (Path.ofText settings.schemaPath) failure

theorem generate_eq (request : Request) (settings : Settings) :
    generate request settings =
      isFileAt (Path.ofText settings.schemaPath) >>= fun found =>
        if !found then
          refuse .inputFailure ("Schema file not found: " ++ (Path.ofText settings.schemaPath).toText)
        else get >>= fun workspace =>
          log .info .command ("Schema:  " ++ FileTree.locationText
            (FileTree.resolve workspace.home (Path.ofText settings.schemaPath))) >>= fun _ =>
          checkPath (Path.ofText settings.outputDir) >>= fun _ =>
          log .info .command ("Output:  " ++ FileTree.locationText
            (FileTree.resolve workspace.home (Path.ofText settings.outputDir))) >>= fun _ =>
          if request.dryRun then
            log .info .command "Dry-run mode: files will not be written to disk." >>= fun _ =>
              runChecked request settings
          else runChecked request settings :=
  rfl

theorem result_create (settings : Settings) (dryRun : Bool) (before : Workspace) :
    ∃ after, (Generator.create settings dryRun).result before =
      (.ok ⟨.ofSettings settings, dryRun⟩, after) ∧ before.SameFiles after :=
  ⟨_, rfl, rfl, rfl⟩

theorem runChecked_runs (request : Request) (settings : Settings) (before : Workspace) :
    ∃ middle, before.SameFiles middle ∧ (runChecked request settings).result before =
      ending request settings
        (((generatorOf request settings).generateFromFile none none request.models).result middle) := by
  obtain ⟨middle, created, same⟩ := result_create settings request.dryRun before
  refine ⟨middle, same, ?_⟩
  rw [runChecked, result_bind, created]
  simp only [result_bind, result_attempt]
  rw [generatorOf]
  rcases (Generator.generateFromFile ⟨.ofSettings settings, request.dryRun⟩ none none
    request.models).result middle with ⟨failure | report, after⟩ <;> rfl

-- With a schema file and a proper output path, it is the run that decides.
theorem generate_runs (request : Request) {before : Workspace}
    (found : (isFileAt (Path.ofText settings.schemaPath)).result before = (.ok true, before))
    (plain : (Path.ofText settings.outputDir).hasNull = false) :
    ∃ middle, before.SameFiles middle ∧ (generate request settings).result before =
      ending request settings
        (((generatorOf request settings).generateFromFile none none request.models).result middle) := by
  have checked : ∃ middle, before.SameFiles middle ∧
      (generate request settings).result before = (runChecked request settings).result middle := by
    rw [generate_eq, result_bind, found]
    simp only [Bool.not_true, Bool.false_eq_true, ↓reduceIte, result_bind, result_get, result_log,
      result_checkPath, plain]
    split
    · simp only [result_bind, result_log]
      refine ⟨_, ?_, rfl⟩
      exact ⟨rfl, rfl⟩
    · refine ⟨_, ?_, rfl⟩
      exact ⟨rfl, rfl⟩
  obtain ⟨middle, same, reached⟩ := checked
  obtain ⟨start, sameStart, ran⟩ := runChecked_runs request settings middle
  exact ⟨start, same.trans sameStart, reached.trans ran⟩

theorem reads_readSchema (request : Request) (settings : Settings) :
    Reads (readSchema request settings) :=
  (generatorOf request settings).reads_readSchema

theorem writeOutput_amountsTo (request : Request) (settings : Settings) (schema : Schema) :
    AmountsTo (writeOutput request settings schema) (writeOutput request settings schema) :=
  Exporter.run_amountsTo_self _ _

theorem reads_buildSettings (file : Option String) (overrides : SettingsEntries) :
    Reads (buildSettings file overrides) := by
  cases file with
  | none => exact (reads_pure []).bind fun _ => reads_ofExcept _ _
  | some given =>
    have loads : Reads (loadSettings given) := (reads_readText _).bind fun _ => reads_ofExcept _ _
    exact loads.bind fun _ => (reads_log _ _ _).bind fun _ => reads_ofExcept _ _

theorem reads_settings (request : Request) : Reads (GenerateCommand.settings request) := by
  rw [GenerateCommand.settings]
  split
  · exact reads_buildSettings _ _
  · exact reads_buildSettings _ _
  · exact reads_fail _

-- A failed export ends the command, which leaves what the export has left.
theorem ending_of_failed {before : Workspace} {failure : Failure}
    (known : ((readSchema request settings).result before).1 = .ok schema)
    (failed : ((writeOutput request settings schema).result before).1 = .error failure) :
    ∃ after, ending request settings
      (((generatorOf request settings).generateFromFile none none request.models).result before) =
        (.ok (refusal (Path.ofText settings.schemaPath) failure, ""), after) ∧
      after.SameFiles ((writeOutput request settings schema).result before).2 := by
  obtain ⟨fails, left⟩ := Generator.generateFromFile_read known request.models
  have ends := (fails failure).mpr failed
  rcases ran : ((generatorOf request settings).generateFromFile none none request.models).result before
    with ⟨other | report, middle⟩
  · rw [ran] at ends left
    cases ends
    obtain ⟨after, refused, same⟩ := result_refuseRun (Path.ofText settings.schemaPath) failure middle
    exact ⟨after, refused, same.symm.trans left⟩
  · rw [ran] at ends
    cases ends

theorem hasFile_of_readSchema {before : Workspace}
    (known : ((readSchema request settings).result before).1 = .ok schema) :
    (Path.ofText settings.schemaPath).hasNull = false ∧
      before.HasFile (Path.ofText settings.schemaPath) := by
  have loaded : ((Schema.load (Path.ofText settings.schemaPath).toText).result before).1 = .ok schema :=
    known
  obtain ⟨noNull, there, -⟩ := Schema.of_load loaded
  rw [Path.ofText_toText_ofText] at noNull there
  exact ⟨noNull, there⟩

theorem generate_of_failed {before : Workspace} {failure : Failure}
    (known : ((readSchema request settings).result before).1 = .ok schema)
    (failed : ((writeOutput request settings schema).result before).1 = .error failure)
    (ofFiles : failure.isOfFiles = true) :
    ∃ after, (generate request settings).result before =
        (.ok (refusal (Path.ofText settings.schemaPath) failure, ""), after) ∧
      after.SameFiles ((writeOutput request settings schema).result before).2 := by
  obtain ⟨noNull, there⟩ := hasFile_of_readSchema known
  obtain ⟨middle, same, reached⟩ := generate_runs request (result_isFileAt noNull there)
    (plain_of_writeOutput known failed ofFiles)
  rw [reached]
  have knownLater := (reads_readSchema request settings).gives same known
  obtain ⟨fails, leaves⟩ := writeOutput_amountsTo request settings schema _ _ same
  obtain ⟨after, ends, left⟩ := ending_of_failed knownLater ((fails failure).mp failed)
  exact ⟨after, ends, left.trans leaves.symm⟩

theorem work_of_failed {before : Workspace} {failure : Failure}
    (set : ((GenerateCommand.settings request).result before).1 = .ok settings)
    (known : ((readSchema request settings).result before).1 = .ok schema)
    (failed : ((writeOutput request settings schema).result before).1 = .error failure)
    (ofFiles : failure.isOfFiles = true) :
    ∃ after, (work request).result before =
        (.ok (refusal (Path.ofText settings.schemaPath) failure, ""), after) ∧
      after.SameFiles ((writeOutput request settings schema).result before).2 := by
  obtain ⟨middle, read, same⟩ := (reads_settings request).ran (.refl before) set
  have knownLater := (reads_readSchema request settings).gives same known
  obtain ⟨fails, leaves⟩ := writeOutput_amountsTo request settings schema _ _ same
  obtain ⟨after, ran, left⟩ := generate_of_failed knownLater ((fails failure).mp failed) ofFiles
  refine ⟨after, ?_, left.trans leaves.symm⟩
  simp only [work, result_bind, result_attempt, read]
  exact ran

theorem perform_of_work {before middle : Workspace} {status : ExitStatus} {stdout : String}
    (worked : (work request).result { before with events := [] } = (.ok (status, stdout), middle)) :
    ∃ outcome after, (perform request).result before = (.ok outcome, after) ∧
      outcome.status = status ∧ middle.SameFiles after := by
  by_cases done : status = .success
  · simp only [perform, asCommand, result_bind, result_modify, worked, if_pos done, result_log,
      result_get, result_pure]
    refine ⟨_, _, rfl, rfl, ?_⟩
    exact ⟨rfl, rfl⟩
  · simp only [perform, asCommand, result_bind, result_modify, worked, if_neg done, result_log,
      result_get, result_pure]
    refine ⟨_, _, rfl, rfl, ?_⟩
    exact ⟨rfl, rfl⟩

theorem perform_ok {before after : Workspace} {outcome : Outcome}
    (ran : (perform request).result before = (.ok outcome, after)) :
    ∃ stdout middle, (work request).result { before with events := [] } =
      (.ok (outcome.status, stdout), middle) ∧ middle.SameFiles after := by
  rcases worked : (work request).result { before with events := [] } with ⟨failure | ended, middle⟩
  · simp only [perform, asCommand, result_bind, result_modify, worked] at ran
    cases ran
  · obtain ⟨status, stdout⟩ := ended
    obtain ⟨again, last, performed, same, left⟩ := perform_of_work worked
    rw [ran] at performed
    cases performed
    exact ⟨stdout, middle, by rw [same], left⟩

-- The status for a failed export is chosen by the path that the failure names.
theorem perform_of_failed {before : Workspace} {failure : Failure}
    (set : ((GenerateCommand.settings request).result before).1 = .ok settings)
    (known : ((readSchema request settings).result before).1 = .ok schema)
    (failed : ((writeOutput request settings schema).result before).1 = .error failure)
    (ofFiles : failure.isOfFiles = true) :
    ∃ outcome after, (perform request).result before = (.ok outcome, after) ∧
      outcome.status = refusal (Path.ofText settings.schemaPath) failure ∧
      after.tree = ((writeOutput request settings schema).result before).2.tree := by
  have fresh : before.SameFiles { before with events := [] } := ⟨rfl, rfl⟩
  have setFresh := (reads_settings request).gives fresh set
  have knownFresh := (reads_readSchema request settings).gives fresh known
  obtain ⟨fails, leaves⟩ := writeOutput_amountsTo request settings schema _ _ fresh
  obtain ⟨middle, worked, left⟩ :=
    work_of_failed setFresh knownFresh ((fails failure).mp failed) ofFiles
  obtain ⟨outcome, after, ran, status, same⟩ := perform_of_work worked
  exact ⟨outcome, after, ran, status, same.tree.symm.trans (left.tree.trans leaves.tree.symm)⟩

end PrismaNest.GenerateCommand
