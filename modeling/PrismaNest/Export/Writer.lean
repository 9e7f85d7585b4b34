import PrismaNest.Artifact.FileSet
import PrismaNest.Export.Manifest
import PrismaNest.Workspace.Files
import PrismaNest.Workspace.Timer

/-! Writing a set of files below an output folder.

Files are written in the order of their paths. A failed write ends the export; what
was written before it stays. A dry run writes nothing and records the same.
-/

set_option autoImplicit false

namespace PrismaNest

def flagText (flag : Bool) : String :=
  if flag then "True" else "False"

structure Exporter where
  settings : Settings
  output : Path
  /-- Write by way of temporary files. -/
  atomic : Bool
  dryRun : Bool
  deriving DecidableEq, Repr

structure ExportResult where
  manifest : Manifest
  output : Path
  dryRun : Bool
  written : List String
  elapsed : Binary64
  deriving DecidableEq, Repr

/-- The files in the order of their paths, compared character by character. -/
def FileSet.sorted (files : FileSet) : FileSet :=
  files.mergeSort fun first second => first.1 ≤ second.1

def FileSet.records (files : FileSet) : List FileRecord :=
  files.sorted.map fun file => .ofContent file.1 file.2

namespace Exporter

def create (settings : Settings) (output : Path) (atomic dryRun : Bool) : Action Exporter := do
  Action.log .debug .exporter ("ResourceExporter initialised: output_dir=" ++ output.toText
    ++ ", atomic=" ++ flagText atomic ++ ", dry_run=" ++ flagText dryRun ++ ".")
  return ⟨settings, output, atomic, dryRun⟩

def target (exporter : Exporter) (path : String) : Path :=
  exporter.output.under (.ofText path)

/-- Writes one file of an export, or says that it would. -/
def writeFile (exporter : Exporter) (file : String × String) : Action Unit :=
  if exporter.dryRun then Action.log .info .exporter ("[dry-run] Would write " ++ file.1)
  else do
    let _ ← Action.writeText (exporter.target file.1) file.2 exporter.atomic

def writeAll (exporter : Exporter) : FileSet → Action Unit
  | [] => pure ()
  | file :: rest => do
    exporter.writeFile file
    exporter.writeAll rest

def writeManifest (exporter : Exporter) (manifest : Manifest) : Action Unit := do
  if exporter.settings.writeManifest && !exporter.dryRun then
    let path := exporter.target manifestName
    let _ ← Action.writeText path (manifest.render 2) exporter.atomic
    Action.log .debug .exporter ("Wrote manifest to " ++ path.toText ++ ".")

/-- Logs what has been exported, and gives the result. -/
def conclude (exporter : Exporter) (files : FileSet) (manifest : Manifest) (timer : Timer) :
    Action ExportResult := do
  Action.log .info .exporter ("Export " ++ (if exporter.dryRun then "simulated" else "completed")
    ++ ": " ++ toString manifest.totalFiles ++ " files, " ++ toString manifest.totalBytes
    ++ " bytes, " ++ timer.elapsed.toFixed 3 ++ "s.")
  return {
    manifest
    output := exporter.output
    dryRun := exporter.dryRun
    written := if exporter.dryRun then [] else files.sorted.map Prod.fst
    elapsed := timer.elapsed }

/-- Writes some files, and the manifest if the settings ask for it. -/
def run (exporter : Exporter) (files : FileSet) : Action ExportResult := do
  let manifest := Manifest.ofRecords files.records
  let (_, timer) ← Action.timed "export" do
    exporter.writeAll files.sorted
    exporter.writeManifest manifest
  exporter.conclude files manifest timer

end Exporter

end PrismaNest
