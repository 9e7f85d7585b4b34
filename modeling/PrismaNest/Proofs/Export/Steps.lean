import PrismaNest.Export.Writer
import PrismaNest.Proofs.Workspace.Amounts

/-! The steps of an export.

An export writes its files one by one, and then the manifest. For the files that it leaves it looks
at nothing but files, and a dry one does nothing but log and read the clock.
-/

set_option autoImplicit false

namespace PrismaNest.Exporter

open PrismaNest.Action

theorem seesFiles_writeAll (exporter : Exporter) (files : FileSet) :
    SeesFiles (exporter.writeAll files) := by
  induction files with
  | nil => exact seesFiles_pure ()
  | cons file files ih =>
    rw [writeAll, writeFile]
    refine SeesFiles.bind ?_ fun _ => ih
    split
    · exact seesFiles_log _ _ _
    · exact (seesFiles_writeText _ _ _).bind fun _ => seesFiles_pure ()

theorem seesFiles_writeManifest (exporter : Exporter) (manifest : Manifest) :
    SeesFiles (exporter.writeManifest manifest) := by
  rw [writeManifest]
  split
  · exact (seesFiles_writeText _ _ _).bind fun _ => seesFiles_log _ _ _
  · exact seesFiles_pure ()

/-- What an export does to the files. -/
def writing (exporter : Exporter) (files : FileSet) : Action Unit := do
  exporter.writeAll files.sorted
  exporter.writeManifest (Manifest.ofRecords files.records)

theorem seesFiles_writing (exporter : Exporter) (files : FileSet) :
    SeesFiles (exporter.writing files) :=
  (exporter.seesFiles_writeAll _).bind fun _ => exporter.seesFiles_writeManifest _

theorem run_amountsTo_writing (exporter : Exporter) (files : FileSet) :
    AmountsTo (exporter.run files) (exporter.writing files) :=
  AmountsTo.and_logs ((exporter.seesFiles_writing files).amountsTo.timed _) fun _ =>
    (onlyLogs_log _ _ _).bind fun _ => onlyLogs_pure _

-- Neither the log nor the time makes a difference to an export.
theorem run_amountsTo_self (exporter : Exporter) (files : FileSet) :
    AmountsTo (exporter.run files) (exporter.run files) :=
  (exporter.run_amountsTo_writing files).trans (exporter.run_amountsTo_writing files).symm

variable {exporter : Exporter}

theorem onlyLogs_writeAll (dry : exporter.dryRun = true) (files : FileSet) :
    OnlyLogs (exporter.writeAll files) := by
  induction files with
  | nil => exact onlyLogs_pure ()
  | cons file files ih =>
    rw [writeAll, writeFile, if_pos dry]
    exact (onlyLogs_log _ _ _).bind fun _ => ih

-- A dry run changes nothing.
theorem onlyLogs_run (dry : exporter.dryRun = true) (files : FileSet) :
    OnlyLogs (exporter.run files) := by
  have writes : OnlyLogs (exporter.writing files) := by
    refine (onlyLogs_writeAll dry _).bind fun _ => ?_
    rw [writeManifest, dry, Bool.not_true, Bool.and_false, if_neg Bool.false_ne_true]
    exact onlyLogs_pure ()
  exact (exporter.run_amountsTo_writing files).onlyLogs writes

end PrismaNest.Exporter
