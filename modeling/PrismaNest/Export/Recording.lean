import PrismaNest.Export.Writer

/-! Exports one after another by one exporter.

An exporter that is kept in use has the records of its latest export. They are dropped when an
export starts, and grow by one record before each file is written; the manifest is made of them.
An export that fails leaves the records that it has made until then.
-/

set_option autoImplicit false

namespace PrismaNest

/-- Actions of an exporter with the records that it has. Like changes to a workspace, changes to
the records outlast a failure. -/
abbrev Recording (α : Type) := ExceptT Failure (StateT (List FileRecord) (StateM Workspace)) α

namespace Recording

variable {α : Type}

/-- What an action gives, and what records and which workspace it leaves. -/
def result (recording : Recording α) (records : List FileRecord) (workspace : Workspace) :
    (Except Failure α × List FileRecord) × Workspace :=
  StateT.run (StateT.run (ExceptT.run recording) records) workspace

/-- An action that the records have no part in. -/
def ofAction (action : Action α) : Recording α :=
  fun records workspace =>
    let (outcome, after) := action.result workspace
    ((outcome, records), after)

/-- Times an action, as an action without records is timed. -/
def timed (label : String) (recording : Recording α) : Recording (α × Timer) :=
  fun records workspace =>
    let ((outcome, left), after) := recording.result records workspace.clockRead
    let timer := Timer.between label (workspace.clock.times 0) (after.clock.times 0)
    ((outcome.map (·, timer), left), { after.clockRead with events := after.events ++ [timer.event] })

end Recording

namespace Exporter

/-- Writes some files, and adds the record of each before it is written. -/
def recordAll (exporter : Exporter) : FileSet → Recording Unit
  | [] => pure ()
  | file :: rest => do
    modify fun records => records ++ [FileRecord.ofContent file.1 file.2]
    Recording.ofAction (exporter.writeFile file)
    exporter.recordAll rest

/-- An export by an exporter in use. -/
def rerun (exporter : Exporter) (files : FileSet) : Recording ExportResult := do
  set ([] : List FileRecord)
  let (manifest, timer) ← Recording.timed "export" do
    exporter.recordAll files.sorted
    let manifest := Manifest.ofRecords (← get)
    Recording.ofAction (exporter.writeManifest manifest)
    return manifest
  Recording.ofAction (exporter.conclude files manifest timer)

end Exporter

end PrismaNest
