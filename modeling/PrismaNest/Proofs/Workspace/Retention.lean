import PrismaNest.Proofs.Files.Retention
import PrismaNest.Proofs.Workspace.Writing

/-! Writing retains what is there.

Whether or not a write succeeds, folders stay folders and files stay files, wherever they are. So
a path that leads to a file before an export leads to a file all through it.
-/

set_option autoImplicit false

namespace PrismaNest

namespace Workspace

/-- Relative paths start from the same folder, and the tree has kept what it has. -/
structure Retains (before after : Workspace) : Prop where
  home : after.home = before.home
  tree : before.tree.Retains after.tree

variable {before middle after : Workspace} {place : Location → Prop} {path : Path}

theorem Retains.refl (workspace : Workspace) : workspace.Retains workspace :=
  ⟨rfl, .refl workspace.tree⟩

theorem Retains.trans (early : before.Retains middle) (late : middle.Retains after) :
    before.Retains after :=
  ⟨late.home.trans early.home, early.tree.trans late.tree⟩

theorem Adds.retains (added : before.Adds [] place after) : before.Retains after where
  home := added.home
  tree := {
    folders := by
      intro location found
      rcases added.elsewhere location List.not_mem_nil with same | ⟨absent, -⟩
      · exact same.trans found
      · rw [found] at absent
        cases absent
    files := by
      intro location content found
      rcases added.elsewhere location List.not_mem_nil with same | ⟨absent, -⟩
      · exact ⟨content, same.trans found⟩
      · rw [found] at absent
        cases absent }

-- What is written over is no folder.
theorem overwritten_retains (workspace : Workspace) (path : Path) (content : ByteArray) :
    workspace.Retains (workspace.overwritten path content).2 := by
  rw [overwritten]
  split
  · rename_i tree overwrote
    obtain ⟨clear, rfl⟩ := FileTree.overwrite_ok overwrote
    exact ⟨rfl, .put_file clear content⟩
  · exact Retains.refl workspace

/-- A path leads to a file. -/
def HasFile (workspace : Workspace) (path : Path) : Prop :=
  workspace.tree.isFileAt workspace.home path = true

theorem HasFile.retained (found : before.HasFile path) (retained : before.Retains after) :
    after.HasFile path := by
  rw [HasFile, retained.home]
  exact retained.tree.isFileAt found

end Workspace

namespace Action

open Workspace

theorem log_retains (severity : Severity) (origin : Origin) (message : String) :
    Keeps Retains (log severity origin message) :=
  fun workspace => ⟨rfl, .refl workspace.tree⟩

theorem writeThrough_retains (path : Path) (content : ByteArray) :
    Keeps Retains (writeThrough path content) := by
  intro workspace
  rcases writeThrough_cases path content workspace with ⟨failure, ran⟩ | ⟨-, ran⟩ | ⟨-, ran⟩
  · rw [ran]
    exact Retains.refl workspace
  · rw [ran]
    exact overwritten_retains workspace _ content
  · rw [ran]
    exact overwritten_retains workspace path content

theorem writeInPlace_retains (path : Path) (content : ByteArray) :
    Keeps Retains (writeInPlace path content) := by
  intro workspace
  rw [result_writeInPlace]
  split
  · exact Retains.refl workspace
  · exact overwritten_retains workspace path content

/-- Puts a file in its place, in one of the two ways. -/
def deliver (path : Path) (content : ByteArray) (atomic : Bool) : Action Unit :=
  if atomic then writeThrough path content else writeInPlace path content

theorem writeText_eq (path : Path) (text : String) (atomic : Bool) :
    writeText path text atomic = do
      ensureFolder path.parent
      deliver path text.toUTF8 atomic
      log .debug .files ("Wrote " ++ toString text.toUTF8.size ++ " bytes to " ++ path.toText)
      return text.toUTF8.size := by
  cases atomic <;> rfl

-- A write that succeeds has made the folders above, and then put the file in its place.
theorem of_writeText_ok {before after : Workspace} {path : Path} {text : String} {atomic : Bool}
    {size : Nat} (wrote : (writeText path text atomic).result before = (.ok size, after)) :
    size = text.toUTF8.size ∧ ∃ middle last,
      (ensureFolder path.parent).result before = (.ok (), middle) ∧
      (deliver path text.toUTF8 atomic).result middle = (.ok (), last) ∧
      after.tree = last.tree ∧ after.home = last.home := by
  rw [writeText_eq] at wrote
  obtain ⟨_, middle, ensured, wrote⟩ := of_result_bind_ok wrote
  obtain ⟨_, last, delivered, logged⟩ := of_result_bind_ok wrote
  cases logged
  exact ⟨rfl, middle, last, ensured, delivered, rfl, rfl⟩

-- A write that fails has failed to make the folders above, or then to put the file in its place.
theorem of_writeText_error {before after : Workspace} {path : Path} {text : String} {atomic : Bool}
    {failure : Failure} (failed : (writeText path text atomic).result before = (.error failure, after)) :
    (ensureFolder path.parent).result before = (.error failure, after) ∨
      ∃ middle, (ensureFolder path.parent).result before = (.ok (), middle) ∧
        (deliver path text.toUTF8 atomic).result middle = (.error failure, after) := by
  rw [writeText_eq] at failed
  rcases of_result_bind_error failed with ensured | ⟨_, middle, ensured, failed⟩
  · exact .inl ensured
  · rcases of_result_bind_error failed with delivered | ⟨_, last, -, logged⟩
    · exact .inr ⟨middle, ensured, delivered⟩
    · cases logged

end Action

end PrismaNest
