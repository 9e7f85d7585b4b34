import PrismaNest.Proofs.Workspace.Agreement

/-! Reading files.

Asking for a file changes nothing, and a text can only be read from a file that is there. A file that
has been written can be read at its path, in whichever way it was written. Only a folder at the path,
or one that is made there on the way, takes in a file that is moved into place. What is read is the
text with a line feed for each of its line ends.
-/

set_option autoImplicit false

namespace PrismaNest

open Workspace

/-- There is a file at a path that holds a text. -/
structure Workspace.HoldsText (workspace : Workspace) (path : Path) (text : String) : Prop where
  noNull : path.hasNull = false
  content : workspace.tree.read workspace.home path = .ok text.toUTF8

namespace Action

theorem result_isFileAt_true {path : Path} {before after : Workspace}
    (found : (isFileAt path).result before = (.ok true, after)) : before.HasFile path := by
  simp only [isFileAt, result_bind, result_get] at found
  split at found
  · cases found
  · split at found
    · cases found
    · rw [result_pure] at found
      exact Except.ok.inj (congrArg Prod.fst found)

theorem isFileAt_leaves (path : Path) (before : Workspace) :
    ((isFileAt path).result before).2 = before := by
  simp only [isFileAt, result_bind, result_get]
  split
  · rfl
  · split <;> rfl

theorem result_isFileAt {path : Path} {before : Workspace} (plain : path.hasNull = false)
    (there : before.HasFile path) : (isFileAt path).result before = (.ok true, before) := by
  obtain ⟨location, content, located, -⟩ := FileTree.isFileAt_iff.mp there
  simp only [isFileAt, result_bind, result_get, plain, located]
  exact congrArg (fun found => (Except.ok found, before)) there

-- A file whose text can be read is there.
theorem hasFile_of_readText {path : Path} {before : Workspace} {text : String}
    (read : ((readText path).result before).1 = .ok text) :
    path.hasNull = false ∧ before.HasFile path := by
  rw [result_readText] at read
  split at read
  · cases read
  · rename_i plain
    refine ⟨Bool.of_not_eq_true plain, ?_⟩
    split at read
    · cases read
    · rename_i bytes reads
      rw [FileTree.read] at reads
      split at reads
      · cases reads
      · rename_i location located
        split at reads
        · cases reads
        · cases reads
        · rename_i content there
          exact FileTree.isFileAt_iff.mpr ⟨location, content, located, there⟩

/-! ### Files that are read back -/

variable {before after : Workspace} {path : Path} {content : ByteArray} {text : String}

theorem hasNull_of_writeThrough (wrote : (writeThrough path content).result before = (.ok (), after)) :
    path.hasNull = false := by
  rw [result_writeThrough] at wrote
  split at wrote
  · cases wrote
  · split at wrote
    · cases wrote
    · rename_i plain
      exact Bool.of_not_eq_true plain

theorem hasNull_of_writeInPlace (wrote : (writeInPlace path content).result before = (.ok (), after)) :
    path.hasNull = false := by
  rw [result_writeInPlace] at wrote
  split at wrote
  · cases wrote
  · rename_i plain
    exact Bool.of_not_eq_true plain

-- A file that does not go into a folder is written where it can be read.
theorem read_of_writeThrough (clear : before.tree.isFolderAt before.home path = false)
    (wrote : (writeThrough path content).result before = (.ok (), after)) :
    after.tree.read after.home path = .ok content := by
  have plain := hasNull_of_writeThrough wrote
  rcases writeThrough_cases path content before with ⟨failure, ran⟩ | ⟨there, -⟩ | ⟨-, ran⟩
  · rw [ran] at wrote
    cases wrote
  · rw [clear] at there
    cases there
  · have inPlace := result_writeInPlace path content before
    rw [plain, if_neg Bool.false_ne_true, ← ran, wrote] at inPlace
    exact read_of_writeInPlace inPlace

theorem read_of_writeText {atomic : Bool} {size : Nat}
    (noFolder : atomic = true → ¬ before.MeetsFolder path)
    (wrote : (writeText path text atomic).result before = (.ok size, after)) :
    path.hasNull = false ∧ after.tree.read after.home path = .ok text.toUTF8 := by
  obtain ⟨-, middle, last, ensured, delivered, tree, home⟩ := of_writeText_ok wrote
  rw [tree, home]
  cases atomic with
  | true =>
    have clear : middle.tree.isFolderAt middle.home path = false :=
      Bool.eq_false_iff.mpr fun there => noFolder rfl ⟨middle, ensured, there⟩
    exact ⟨hasNull_of_writeThrough delivered, read_of_writeThrough clear delivered⟩
  | false => exact ⟨hasNull_of_writeInPlace delivered, read_of_writeInPlace delivered⟩

theorem readText_of_read {workspace : Workspace} (plain : path.hasNull = false)
    (there : workspace.tree.read workspace.home path = .ok text.toUTF8) :
    (readText path).result workspace =
      (.ok (String.ofList (Text.normalizeLineEnds text.toList)), workspace) := by
  rw [result_readText, plain, if_neg Bool.false_ne_true, there]
  simp only [Text.decodeUtf8_toUTF8]

end Action

end PrismaNest
