import PrismaNest.Proofs.Workspace.Folders

/-! Writing a file.

A write onto a place that is no folder either succeeds, and then the file is there and no
other file has changed, or fails, and then no file has changed. Folders may have been made on
the way to it, and no temporary file stays.
-/

set_option autoImplicit false

namespace PrismaNest

namespace Workspace

variable {α : Type} {before middle : Workspace} {files : List (Location × ByteArray)}
  {place : Location → Prop} {location : Location} {content : ByteArray}

/-- Some files are added if an action succeeds, and none if it fails. -/
def Attempts (before : Workspace) (files : List (Location × ByteArray)) (place : Location → Prop) :
    Except Failure α × Workspace → Prop
  | (.ok _, after) => before.Adds files place after
  | (.error _, after) => before.Adds [] place after

theorem Adds.attempts (early : before.Adds [] place middle) {ran : Except Failure α × Workspace}
    (late : middle.Attempts files place ran) : before.Attempts files place ran := by
  obtain ⟨_ | _, after⟩ := ran
  · exact early.trans late fun _ member => nomatch member
  · exact early.trans late fun _ member => nomatch member

theorem Adds.put_file (inside : location ≠ []) (place : Location → Prop) :
    before.Adds [(location, content)] place
      { before with tree := before.tree.put location (.file content) } where
  home := rfl
  written := by
    intro file member
    cases List.mem_singleton.mp member
    simp only [FileTree.lookUp?_put _ _ _ _ inside, ↓reduceIte]
  elsewhere := by
    intro asked unwritten
    have other : asked ≠ location := by simpa using unwritten
    by_cases top : asked = []
    · subst top
      exact .inl rfl
    · refine .inl ?_
      simp only [FileTree.lookUp?_put _ _ _ _ top, if_neg other]

theorem overwritten_attempts {path : Path} :
    before.Attempts [(FileTree.resolve before.home path, content)] place
      (before.overwritten path content) := by
  rw [overwritten]
  split
  · rename_i tree overwrote
    obtain ⟨clear, rfl⟩ := FileTree.overwrite_ok overwrote
    exact Adds.put_file (FileTree.ne_top_of_not_isFolder clear) place
  · exact Adds.refl before place

end Workspace

namespace Action

open Workspace

variable {before : Workspace} {path : Path} {content : ByteArray} {place : Location → Prop}

theorem writeThrough_attempts
    (clear : before.tree.isFolder (FileTree.resolve before.home path) = false) :
    before.Attempts [(FileTree.resolve before.home path, content)] place
      ((writeThrough path content).result before) := by
  rcases writeThrough_cases path content before with ⟨failure, ran⟩ | ⟨there, -⟩ | ⟨-, ran⟩
  · rw [ran]
    exact Adds.refl before place
  · rw [FileTree.isFolder_of_isFolderAt there] at clear
    cases clear
  · rw [ran]
    exact overwritten_attempts

theorem writeInPlace_attempts :
    before.Attempts [(FileTree.resolve before.home path, content)] place
      ((writeInPlace path content).result before) := by
  rw [result_writeInPlace]
  split
  · exact Adds.refl before place
  · exact overwritten_attempts

-- Logging afterwards changes nothing.
theorem attempts_logged {α : Type} {files : List (Location × ByteArray)} {action : Action Unit}
    (wrote : before.Attempts files place (action.result before)) (severity : Severity)
    (origin : Origin) (message : String) (value : α) :
    before.Attempts files place
      ((do action; log severity origin message; return value : Action α).result before) := by
  simp only [result_bind]
  rcases ran : action.result before with ⟨failure | _, after⟩
  · rw [ran] at wrote
    exact wrote
  · rw [ran] at wrote
    exact Adds.congr wrote rfl rfl

-- A file that is moved to its place must not find a folder there, or one made on the way, since it
-- would go into that folder.
theorem writeText_attempts (text : String) (atomic : Bool)
    (clear : atomic = true → before.tree.isFolder (FileTree.resolve before.home path) = false)
    (aside : atomic = true →
      ¬ path.parent.Crosses before.home (FileTree.resolve before.home path)) :
    before.Attempts [(FileTree.resolve before.home path, text.toUTF8)]
      (path.parent.Crosses before.home) ((writeText path text atomic).result before) := by
  have grown := ensureFolder_grows path.parent before
  rw [writeText, result_bind]
  rcases ensured : (ensureFolder path.parent).result before with ⟨failure | _, middle⟩
  · rw [ensured] at grown
    exact grown
  · rw [ensured] at grown
    refine Adds.attempts grown ?_
    rw [← grown.home]
    cases atomic with
    | true =>
      -- The folders made on the way have left the place of the file free.
      have stillClear := Adds.not_isFolder grown (aside rfl) (clear rfl)
      rw [← grown.home] at stillClear
      exact attempts_logged (writeThrough_attempts stillClear) _ _ _ _
    | false => exact attempts_logged writeInPlace_attempts _ _ _ _

end Action

end PrismaNest
