import PrismaNest.Proofs.Files.Retention
import PrismaNest.Proofs.Workspace.Actions
import PrismaNest.Proofs.Workspace.TemporaryNames

/-! What actions on files give.

For each action that looks at the tree, one equation says what it gives and what it leaves. All else
that is said of these actions rests on the equations.
-/

set_option autoImplicit false

namespace PrismaNest

/-- What writing over the file at a path gives and leaves. -/
def Workspace.overwritten (before : Workspace) (path : Path) (content : ByteArray) :
    Except Failure Unit × Workspace :=
  match before.tree.overwrite before.home path content with
  | .ok tree => (.ok (), { before with tree })
  | .error fault => (.error (.file fault path.toText), before)

namespace Action

open Workspace

variable {before : Workspace}

theorem result_checkPath (path : Path) (before : Workspace) :
    (checkPath path).result before =
      (if path.hasNull then .error .nullInPath else .ok (), before) := by
  rw [checkPath]
  split <;> rfl

theorem result_tryFolder (path : Path) (before : Workspace) :
    (tryFolder path).result before =
      if path.hasNull then (.error .nullInPath, before)
      else
        match before.tree.makeFolder before.home path with
        | .ok tree => (.ok true, { before with tree })
        | .error .notFound => (.ok false, before)
        | .error fault =>
          if before.tree.isFolderAt before.home path then (.ok true, before)
          else (.error (.file fault path.toText), before) := by
  simp only [tryFolder, result_bind, result_checkPath]
  cases path.hasNull with
  | true => rfl
  | false =>
    simp only [Bool.false_eq_true, ↓reduceIte, result_get]
    cases before.tree.makeFolder before.home path with
    | ok tree => rfl
    | error fault => cases fault <;> cases before.tree.isFolderAt before.home path <;> rfl

theorem result_writeInPlace (path : Path) (content : ByteArray) (before : Workspace) :
    (writeInPlace path content).result before =
      if path.hasNull then (.error .nullInPath, before) else before.overwritten path content := by
  simp only [writeInPlace, result_bind, result_checkPath]
  cases path.hasNull with
  | true => rfl
  | false =>
    simp only [Bool.false_eq_true, ↓reduceIte, result_get, overwritten]
    cases before.tree.overwrite before.home path content <;> rfl

-- A temporary file that has just been put is gone after the move, whether or not that succeeds.
theorem result_moveFile {source : Location} (absent : before.tree.lookUp? source = none)
    (name : String) (path : Path) (content : ByteArray) :
    let tree := before.tree.put source (.file content)
    let inside := path.under ⟨"", [name]⟩
    (moveFile source name path).result { before with tree } =
      if before.tree.isFolderAt before.home path then
        if (tree.at? before.home inside).isSome then
          (.error (.occupied (path.toText ++ "/" ++ name)), before)
        else before.overwritten inside content
      else before.overwritten path content := by
  intro tree inside
  have below : source ≠ [] := by
    rintro rfl
    cases absent
  have there : tree.content? source = some content := by
    rw [FileTree.content?_eq_some_iff, FileTree.lookUp?_put _ _ _ _ below, if_pos rfl]
  have restored : tree.erase source = before.tree := FileTree.erase_put absent _
  have same : tree.isFolderAt before.home path = before.tree.isFolderAt before.home path :=
    FileTree.isFolderAt_put_file absent content before.home path
  simp only [moveFile, result_bind, result_get, there, restored, same]
  cases before.tree.isFolderAt before.home path with
  | true =>
    cases (tree.at? before.home inside).isSome with
    | true => rfl
    | false =>
      simp only [Bool.true_and, Bool.false_eq_true, ↓reduceIte, overwritten, inside]
      cases before.tree.overwrite before.home (path.under ⟨"", [name]⟩) content <;> rfl
  | false =>
    simp only [Bool.false_and, Bool.false_eq_true, ↓reduceIte, overwritten]
    cases before.tree.overwrite before.home path content <;> rfl

theorem result_writeThrough (path : Path) (content : ByteArray) (before : Workspace) :
    let name := freeName before.tree path.name
    let inside := path.under ⟨"", [name]⟩
    (writeThrough path content).result before =
      match before.tree.locate before.home path.parent with
      | .error fault => (.error (.file fault path.parent.toText), before)
      | .ok folder =>
        if path.hasNull then (.error .nullInPath, before)
        else if !temporaryFits folder path.name then
          (.error (.file .nameTooLong (FileTree.locationText (folder ++ [name]))), before)
        else if before.tree.isFolderAt before.home path then
          if ((before.tree.put (folder ++ [name]) (.file content)).at? before.home inside).isSome then
            (.error (.occupied (path.toText ++ "/" ++ name)), before)
          else before.overwritten inside content
        else before.overwritten path content := by
  intro name inside
  simp only [writeThrough, result_bind, result_get]
  cases before.tree.locate before.home path.parent with
  | error fault => rfl
  | ok folder =>
    simp only [result_bind, result_checkPath]
    cases path.hasNull with
    | true => rfl
    | false =>
      cases temporaryFits folder path.name with
      | false => rfl
      | true => exact result_moveFile (lookUp?_freeName before.tree folder path.name) name path content

-- A write through a temporary file fails, or it comes to writing over a file.
theorem writeThrough_cases (path : Path) (content : ByteArray) (before : Workspace) :
    (∃ failure, (writeThrough path content).result before = (.error failure, before)) ∨
      before.tree.isFolderAt before.home path = true ∧
        (writeThrough path content).result before =
          before.overwritten (path.under ⟨"", [freeName before.tree path.name]⟩) content ∨
      before.tree.isFolderAt before.home path = false ∧
        (writeThrough path content).result before = before.overwritten path content := by
  rw [result_writeThrough]
  split
  · exact .inl ⟨_, rfl⟩
  · split
    · exact .inl ⟨_, rfl⟩
    · split
      · exact .inl ⟨_, rfl⟩
      · split
        · rename_i there
          split
          · exact .inl ⟨_, rfl⟩
          · exact .inr (.inl ⟨there, rfl⟩)
        · rename_i other
          exact .inr (.inr ⟨Bool.of_not_eq_true other, rfl⟩)

theorem result_readText (path : Path) (before : Workspace) :
    (readText path).result before =
      if path.hasNull then (.error .nullInPath, before)
      else
        match before.tree.read before.home path with
        | .error fault => (.error (.file fault path.toText), before)
        | .ok bytes =>
          match Text.decodeUtf8 bytes with
          | .error fault => (.error (.notUtf8 fault), before)
          | .ok text => (.ok (String.ofList (Text.normalizeLineEnds text.toList)), before) := by
  simp only [readText, result_bind, result_checkPath]
  cases path.hasNull with
  | true => rfl
  | false =>
    simp only [Bool.false_eq_true, ↓reduceIte, result_get]
    cases before.tree.read before.home path with
    | error fault => rfl
    | ok bytes =>
      dsimp only
      cases Text.decodeUtf8 bytes <;> rfl

end Action

end PrismaNest
