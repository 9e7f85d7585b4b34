import PrismaNest.Export.Recording
import PrismaNest.Proofs.Workspace.Actions

/-! Exports of an exporter in use.

What an exporter has recorded before makes no difference to an export, and what it records then are
the files of that export. So an exporter in use does what a new one does.
-/

set_option autoImplicit false

namespace PrismaNest

namespace Recording

variable {α β : Type}

@[simp] theorem result_pure (value : α) (records : List FileRecord) (workspace : Workspace) :
    (pure value : Recording α).result records workspace = ((.ok value, records), workspace) :=
  rfl

@[simp] theorem result_bind (recording : Recording α) (next : α → Recording β)
    (records : List FileRecord) (workspace : Workspace) :
    (recording >>= next).result records workspace =
      match recording.result records workspace with
      | ((.ok value, left), after) => (next value).result left after
      | ((.error failure, left), after) => ((.error failure, left), after) := by
  change StateT.run (StateT.run (ExceptT.run recording >>= ExceptT.bindCont next) records)
    workspace = _
  rw [StateT.run_bind, StateT.run_bind]
  rcases ran : StateT.run (StateT.run (ExceptT.run recording) records) workspace with
    ⟨⟨_ | _, left⟩, after⟩
  · simp only [result, ran]
    rfl
  · simp only [result, ran]
    rfl

@[simp] theorem result_get (records : List FileRecord) (workspace : Workspace) :
    (get : Recording (List FileRecord)).result records workspace =
      ((.ok records, records), workspace) :=
  rfl

@[simp] theorem result_set (replacement records : List FileRecord) (workspace : Workspace) :
    (set replacement : Recording Unit).result records workspace =
      ((.ok (), replacement), workspace) :=
  rfl

@[simp] theorem result_modify (change : List FileRecord → List FileRecord)
    (records : List FileRecord) (workspace : Workspace) :
    (modify change : Recording Unit).result records workspace =
      ((.ok (), change records), workspace) :=
  rfl

@[simp] theorem result_ofAction (action : Action α) (records : List FileRecord)
    (workspace : Workspace) :
    (ofAction action).result records workspace =
      (((action.result workspace).1, records), (action.result workspace).2) :=
  rfl

theorem result_timed (label : String) (recording : Recording α) (records : List FileRecord)
    (workspace : Workspace) :
    (timed label recording).result records workspace =
      let ran := recording.result records workspace.clockRead
      let timer := Timer.between label (workspace.clock.times 0) (ran.2.clock.times 0)
      ((ran.1.1.map (·, timer), ran.1.2),
        { ran.2.clockRead with events := ran.2.events ++ [timer.event] }) :=
  rfl

end Recording

namespace Exporter

variable (exporter : Exporter) (files : FileSet)

-- Recording the files does not change how they are written. Once all are, all are recorded.
theorem result_recordAll (records : List FileRecord) (before : Workspace) :
    ∃ left, (exporter.recordAll files).result records before =
        ((((exporter.writeAll files).result before).1, left),
          ((exporter.writeAll files).result before).2) ∧
      (((exporter.writeAll files).result before).1 = .ok () →
        left = records ++ files.map fun file => .ofContent file.1 file.2) := by
  induction files generalizing records before with
  | nil => exact ⟨records, rfl, fun _ => (List.append_nil records).symm⟩
  | cons file files ih =>
    simp only [recordAll, writeAll, Recording.result_bind, Recording.result_modify,
      Recording.result_ofAction, Action.result_bind]
    rcases ran : (exporter.writeFile file).result before with ⟨failure | _, middle⟩
    · exact ⟨_, rfl, fun same => nomatch same⟩
    · obtain ⟨left, further, all⟩ := ih (records ++ [.ofContent file.1 file.2]) middle
      refine ⟨left, further, fun succeeded => ?_⟩
      rw [all succeeded, List.append_assoc, List.map_cons, List.singleton_append]

-- An export by an exporter in use is the export that a new exporter makes.
theorem result_rerun (records : List FileRecord) (before : Workspace) :
    ((exporter.rerun files).result records before).1.1 = ((exporter.run files).result before).1 ∧
      ((exporter.rerun files).result records before).2 = ((exporter.run files).result before).2 := by
  obtain ⟨left, recorded, all⟩ := exporter.result_recordAll files.sorted [] before.clockRead
  simp only [rerun, run, Recording.result_bind, Recording.result_set, Recording.result_timed,
    Recording.result_get, Recording.result_ofAction, Recording.result_pure, recorded,
    Action.result_bind, Action.result_timed]
  rcases wrote : (exporter.writeAll files.sorted).result before.clockRead with ⟨failure | _, middle⟩
  · exact ⟨rfl, rfl⟩
  · rw [wrote] at all
    have manifest : Manifest.ofRecords left = Manifest.ofRecords files.records :=
      congrArg Manifest.ofRecords (all rfl)
    simp only [manifest]
    rcases noted : (exporter.writeManifest (Manifest.ofRecords files.records)).result middle with
      ⟨failure | _, last⟩
    · exact ⟨rfl, rfl⟩
    · exact ⟨rfl, rfl⟩

end Exporter

end PrismaNest
