import PrismaNest.Proofs.Command.Runs

/-! The status with which generation ends.

A command that ends for its input has changed nothing, and one that cannot write its output says
so. The status is chosen by the path that a failure names; so no file may have to be written right
below the schema file, for then that path would be the one of the schema.
-/

set_option autoImplicit false

namespace PrismaNest.GenerateCommand

open Text Workspace PrismaNest.Action

/-- No file of a request is to be written right below the schema file, or under a name that
cannot be. -/
structure SchemaAside (request : Request) (settings : Settings) (schema : Schema) : Prop where
  extension : Lacks '\x00' settings.fileExtension
  apart : ∀ path ∈ (exporterOf request settings).paths (filesOf request settings schema),
    ((exporterOf request settings).target path).parent ≠ Path.ofText settings.schemaPath

variable {request : Request} {settings : Settings} {schema : Schema}

-- The export fails with the file system, and does not name the schema file.
theorem writeOutput_spares {before : Workspace}
    (known : ((readSchema request settings).result before).1 = .ok schema)
    (aside : SchemaAside request settings schema)
    (plain : (Path.ofText settings.outputDir).hasNull = false) :
    Spares (Path.ofText settings.schemaPath) (writeOutput request settings schema) := by
  apply Exporter.run_spares (Path.isNormal_ofText settings.outputDir) plain
  intro path member
  refine ⟨?_, aside.apart path member⟩
  rcases List.mem_append.mp member with ofFiles | manifest
  · exact CodeWriter.lacks_null_of_mem_files (isLabel_of_readSchema known) aside.extension path ofFiles
  · split at manifest
    · rw [List.mem_singleton.mp manifest]
      decide
    · cases manifest

theorem refusal_of_spares {path : Path} {failure : Failure} (spares : failure.Spares path) :
    refusal path failure = .writeFailure :=
  if_pos ⟨spares.ofFiles, spares.other⟩

-- The status for the input is left to what happens before anything is written.
theorem generate_leaves {before after : Workspace} {stdout : String}
    (aside : ∀ schema, ((readSchema request settings).result before).1 = .ok schema →
      SchemaAside request settings schema)
    (ran : (generate request settings).result before = (.ok (.inputFailure, stdout), after)) :
    before.SameFiles after := by
  rcases found : (isFileAt (Path.ofText settings.schemaPath)).result before with
    ⟨failure | there, unchanged⟩
  · rw [generate_eq, result_bind, found] at ran
    cases ran
  obtain rfl : unchanged = before := by
    rw [← isFileAt_leaves (Path.ofText settings.schemaPath) before, found]
  cases there with
  | false =>
    rw [generate_eq, result_bind, found] at ran
    cases ran
    exact ⟨rfl, rfl⟩
  | true =>
    cases plain : (Path.ofText settings.outputDir).hasNull with
    | true =>
      rw [generate_eq, result_bind, found] at ran
      simp only [Bool.not_true, Bool.false_eq_true, ↓reduceIte, result_bind, result_get, result_log,
        checkPath, plain, result_fail] at ran
      cases ran
    | false =>
      obtain ⟨middle, same, reached⟩ := generate_runs request found plain
      rw [reached] at ran
      have there := same.hasFile (result_isFileAt_true found)
      rcases known : ((readSchema request settings).result middle).1 with failure | schema
      · obtain ⟨ends, left⟩ := Generator.generateFromFile_unread known request.models
        rcases fromFile : ((generatorOf request settings).generateFromFile none none
          request.models).result middle with ⟨other | report, last⟩
        · rw [fromFile] at ran left
          obtain ⟨ended, refused, leaves⟩ :=
            result_refuseRun (Path.ofText settings.schemaPath) other last
          rw [ending, refused] at ran
          obtain rfl : ended = after := congrArg Prod.snd ran
          exact same.trans (left.trans leaves)
        · rw [fromFile] at ends
          cases ends
      · have settled := aside schema ((reads_readSchema request settings).gives same.symm known)
        rcases exported : ((writeOutput request settings schema).result middle).1 with failure | written
        · have spares := (writeOutput_spares known settled plain middle there).2 failure exported
          obtain ⟨last, ends, -⟩ := ending_of_failed known exported
          rw [ends, refusal_of_spares spares] at ran
          cases ran
        · obtain ⟨fails, -⟩ := Generator.generateFromFile_read known request.models
          rcases fromFile : ((generatorOf request settings).generateFromFile none none
            request.models).result middle with ⟨other | report, last⟩
          · have impossible := (fails other).mp (by rw [fromFile])
            have wrote : ((writeOutput request settings schema).result middle).1 = .error other := impossible
            rw [exported] at wrote
            cases wrote
          · rw [fromFile] at ran
            cases ran

theorem work_leaves {before after : Workspace} {stdout : String}
    (aside : ∀ settings schema, ((GenerateCommand.settings request).result before).1 = .ok settings →
      ((readSchema request settings).result before).1 = .ok schema →
      SchemaAside request settings schema)
    (ran : (work request).result before = (.ok (.inputFailure, stdout), after)) :
    before.SameFiles after := by
  have reads := (reads_settings request).keeps before
  rcases read : (GenerateCommand.settings request).result before with ⟨failure | settings, middle⟩
  · rw [read] at reads
    simp only [work, result_bind, result_attempt, read] at ran
    split at ran
    · cases ran
    · cases ran
      exact ⟨reads.tree, reads.home⟩
  · rw [read] at reads
    simp only [work, result_bind, result_attempt, read] at ran
    refine reads.trans (generate_leaves (fun schema known => ?_) ran)
    exact aside settings schema (by rw [read])
      ((reads_readSchema request settings).gives reads.symm known)

/-- Whatever arguments are understood: a command that ends with the status for its input has
changed nothing, and one that has read its settings and its schema, but cannot write its output,
ends with the status for that. -/
theorem run_tells_failures_apart {arguments : List String} {request : Request}
    (understood : Request.read arguments = .ok request) {before : Workspace}
    (aside : ∀ settings schema, ((GenerateCommand.settings request).result before).1 = .ok settings →
      ((readSchema request settings).result before).1 = .ok schema →
      SchemaAside request settings schema) :
    (∀ outcome after, (run arguments).result before = (.ok outcome, after) →
      outcome.status = .inputFailure → after.tree = before.tree) ∧
    (∀ settings schema failure,
      ((GenerateCommand.settings request).result before).1 = .ok settings →
      ((readSchema request settings).result before).1 = .ok schema →
      ((writeOutput request settings schema).result before).1 = .error failure →
      failure.isOfFiles = true → ∃ outcome after,
        (run arguments).result before = (.ok outcome, after) ∧ outcome.status = .writeFailure) := by
  have performs : run arguments = perform request := by rw [run, understood]
  have fresh : before.SameFiles { before with events := [] } := ⟨rfl, rfl⟩
  rw [performs]
  constructor
  · intro outcome after ran ended
    obtain ⟨stdout, middle, worked, same⟩ := perform_ok ran
    rw [ended] at worked
    have left := work_leaves (fun settings schema set known => ?_) worked
    · rw [← same.tree, ← left.tree]
    · have setBefore := (reads_settings request).gives fresh.symm set
      have knownBefore := (reads_readSchema request settings).gives fresh.symm known
      exact aside settings schema setBefore knownBefore
  · intro settings schema failure set known failed ofFiles
    obtain ⟨-, there⟩ := hasFile_of_readSchema known
    have plain := plain_of_writeOutput known failed ofFiles
    have spares := (writeOutput_spares known (aside settings schema set known) plain before there).2
      failure failed
    obtain ⟨outcome, after, ran, status, -⟩ := perform_of_failed set known failed ofFiles
    exact ⟨outcome, after, ran, status.trans (refusal_of_spares spares)⟩

-- What is asked for by some arguments without names of models, where the output is written.
theorem exists_request (arguments : List String) (before : Workspace) (settings : Settings)
    (schema : Schema) (checked : ((Request.read arguments).toOption.map fun request =>
      (((GenerateCommand.settings request).result before).1.toOption,
        ((readSchema request settings).result before).1.toOption, request.dryRun, request.models)) =
      some (some settings, some schema, false, [])) :
    ∃ request, Request.read arguments = .ok request ∧
      ((GenerateCommand.settings request).result before).1 = .ok settings ∧
      ((readSchema request settings).result before).1 = .ok schema ∧
      exporterOf request settings = ⟨settings, .ofText settings.outputDir, true, false⟩ ∧
      filesOf request settings schema =
        (CodeWriter.ofSettings settings).files (schema.select [] settings.firstModelOnly) := by
  have ok_of_toOption : ∀ {ε α : Type} {given : Except ε α} {value : α},
      given.toOption = some value → given = .ok value := by
    intro ε α given value same
    cases given with
    | error fault => cases same
    | ok other => exact congrArg Except.ok (Option.some.inj same)
  rcases understood : Request.read arguments with halt | request
  · rw [understood] at checked
    cases checked
  · rw [understood] at checked
    obtain ⟨set, rest⟩ := Prod.mk.inj (Option.some.inj checked)
    obtain ⟨known, rest⟩ := Prod.mk.inj rest
    obtain ⟨real, all⟩ := Prod.mk.inj rest
    refine ⟨request, rfl, ok_of_toOption set, ok_of_toOption known, ?_, ?_⟩
    · rw [exporterOf, generatorOf, real]
      rfl
    · rw [filesOf, generatorOf, all]
      rfl

/-- A file stands where the output folder should be. -/
theorem run_tells_failures_apart_blocked :
    let arguments := ["-s", "s", "-o", "out", "--manifest"]
    let before : Workspace := ⟨⟨[(["home"], .folder), (["home", "s"], .file "".toUTF8),
      (["home", "out"], .file "".toUTF8)]⟩, ["home"], .zero false, []⟩
    ∃ outcome after, (run arguments).result before = (.ok outcome, after) ∧
      outcome.status = .writeFailure := by
  intro arguments before
  let settings : Settings := { schemaPath := "s", outputDir := "out", writeManifest := true }
  let schema : Schema := ⟨[], [], some "s"⟩
  obtain ⟨request, understood, set, known, exporter, files⟩ :=
    exists_request arguments before settings schema (by decide +kernel)
  have failing : (match ((writeOutput request settings schema).result before).1 with
      | .ok _ => false
      | .error failure => failure.isOfFiles) = true := by
    rw [writeOutput, exporter, files, Exporter.run, FileSet.records,
      FileSet.sorted_eq_insertionSort (CodeWriter.nodup_files _)]
    decide +kernel
  split at failing
  · cases failing
  rename_i failure failed
  refine (run_tells_failures_apart understood ?_).2 settings schema failure set known failed failing
  intro found others sameSettings sameSchema
  cases set.symm.trans sameSettings
  cases known.symm.trans sameSchema
  refine ⟨by decide, ?_⟩
  rw [exporter, files]
  decide +kernel

/-- The schema file stands where a folder of the output should be. The command then ends with the
status for its input, and a part of the output is there. -/
theorem not_tells_failures_apart_schema_in_output :
    let arguments := ["-s", "out/a/dto", "-o", "out"]
    let before : Workspace := ⟨⟨[(["home"], .folder), (["home", "out"], .folder),
      (["home", "out", "a"], .folder), (["home", "out", "a", "dto"],
        .file "model A \x7b\n id Int\n\x7d".toUTF8)]⟩, ["home"], .zero false, []⟩
    ∃ request settings schema failure, Request.read arguments = .ok request ∧
      ((GenerateCommand.settings request).result before).1 = .ok settings ∧
      ((readSchema request settings).result before).1 = .ok schema ∧
      ((writeOutput request settings schema).result before).1 = .error failure ∧
      failure.isOfFiles = true ∧ ∃ outcome after,
        (run arguments).result before = (.ok outcome, after) ∧ outcome.status = .inputFailure ∧
        before.tree.lookUp? ["home", "out", "a", "a.service.ts"] = none ∧
        after.tree.lookUp? ["home", "out", "a", "a.service.ts"] ≠ none := by
  intro arguments before
  let settings : Settings := { schemaPath := "out/a/dto", outputDir := "out" }
  let schema := Schema.ofText "model A \x7b\n id Int\n\x7d" (some "out/a/dto")
  obtain ⟨request, understood, set, known, exporter, files⟩ :=
    exists_request arguments before settings schema (by decide +kernel)
  have failing : (match ((writeOutput request settings schema).result before).1 with
      | .ok _ => false
      | .error failure =>
        failure.isOfFiles && refusal (Path.ofText settings.schemaPath) failure == .inputFailure) = true ∧
      (((writeOutput request settings schema).result before).2.tree.lookUp?
        ["home", "out", "a", "a.service.ts"]).isSome = true := by
    rw [writeOutput, exporter, files, Exporter.run, FileSet.records,
      FileSet.sorted_eq_insertionSort (CodeWriter.nodup_files _)]
    decide +kernel
  obtain ⟨refuses, written⟩ := failing
  split at refuses
  · cases refuses
  rename_i failure failed
  rw [Bool.and_eq_true, beq_iff_eq] at refuses
  obtain ⟨ofFiles, refused⟩ := refuses
  obtain ⟨outcome, after, ran, status, left⟩ := perform_of_failed set known failed ofFiles
  refine ⟨request, settings, schema, failure, understood, set, known, failed, ofFiles, outcome, after,
    ?_, status.trans refused, by decide +kernel, ?_⟩
  · rw [run, understood]
    exact ran
  · rw [left]
    exact Option.isSome_iff_ne_none.mp written

end PrismaNest.GenerateCommand
