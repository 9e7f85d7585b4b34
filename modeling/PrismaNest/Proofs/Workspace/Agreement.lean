import PrismaNest.Proofs.Workspace.Faults
import PrismaNest.Proofs.Workspace.Placing

/-! Two ways to write a file.

A file can be written in its place or by way of a temporary file. As long as there is room for the
temporary name and no folder is where the file goes, both ways give the same and leave the same:
the file, or a failure of the file system.
-/

set_option autoImplicit false

namespace PrismaNest

open Workspace

/-- Once the folders above a path are made, a folder is at the path itself. -/
def Workspace.MeetsFolder (before : Workspace) (path : Path) : Prop :=
  ∃ middle, (Action.ensureFolder path.parent).result before = (.ok (), middle) ∧
    middle.tree.isFolderAt middle.home path = true

namespace Action

variable {before after : Workspace} {path : Path} {content : ByteArray}

theorem not_meetsFolder
    (clear : ((ensureFolder path.parent).result before).2.tree.isFolderAt before.home path = false) :
    ¬ before.MeetsFolder path := by
  rintro ⟨middle, made, there⟩
  have home := (ensureFolder_grows path.parent before).home
  rw [made] at clear home
  rw [home] at there
  exact Bool.false_ne_true (clear.symm.trans there)

theorem writeInPlace_failsWithFiles (plain : path.hasNull = false) (content : ByteArray) :
    FailsWithFiles (writeInPlace path content) := by
  intro before failure failed
  simp only [result_writeInPlace, plain, Bool.false_eq_true, ↓reduceIte, overwritten] at failed
  split at failed
  · cases failed
  · cases failed
    rfl

-- What has been written can be read.
theorem read_of_writeInPlace (wrote : (writeInPlace path content).result before = (.ok (), after)) :
    after.tree.read after.home path = .ok content := by
  rw [result_writeInPlace, overwritten] at wrote
  split at wrote
  · cases wrote
  · split at wrote
    · rename_i tree overwrote
      cases wrote
      obtain ⟨clear, rfl⟩ := FileTree.overwrite_ok overwrote
      have proper := FileTree.ne_top_of_not_isFolder clear
      rw [FileTree.overwrite] at overwrote
      split at overwrote
      · cases overwrote
      · rename_i place located
        have still := (FileTree.Retains.put_file clear content).locate located
        simp only [FileTree.read, still]
        rw [FileTree.eq_resolve_of_locate located, FileTree.lookUp?_put _ _ _ _ proper, if_pos rfl]
    · cases wrote

-- With room for the temporary file and no folder in the way, both ways of writing are one.
theorem writeThrough_eq_writeInPlace
    (above : before.tree.isFolderAt before.home path.parent = true)
    (clear : before.tree.isFolderAt before.home path = false)
    (fits : temporaryFits (FileTree.resolve before.home path.parent) path.name = true) :
    (writeThrough path content).result before = (writeInPlace path content).result before := by
  obtain ⟨folder, located, -⟩ := FileTree.isFolderAt_iff.mp above
  rw [← FileTree.eq_resolve_of_locate located] at fits
  rw [result_writeThrough, result_writeInPlace]
  simp only [located, fits, clear, Bool.not_true, Bool.false_eq_true, ↓reduceIte]

/-- Where no folder is at a path and there is room for a temporary file, it makes no difference how a
file is written: the outcome is the same, and so is all that is left. A file that is written can be
read, and a path without null characters fails only with the file system. -/
theorem writeText_agrees (text : String) (noFolder : ¬ before.MeetsFolder path)
    (fits : temporaryFits (FileTree.resolve before.home path.parent) path.name = true) :
    let through := (writeText path text true).result before
    let inPlace := (writeText path text false).result before
    through = inPlace ∧
      (∀ size, inPlace.1 = .ok size → size = text.toUTF8.size ∧
        inPlace.2.tree.read inPlace.2.home path = .ok text.toUTF8) ∧
      ∀ failure, inPlace.1 = .error failure → path.hasNull = false → failure.isOfFiles = true := by
  intro through inPlace
  refine ⟨?_, ?_, ?_⟩
  · simp only [through, inPlace, writeText_eq, result_bind]
    have home := (ensureFolder_grows path.parent before).home
    rcases ensured : (ensureFolder path.parent).result before with ⟨failure | _, middle⟩
    · rfl
    · rw [ensured] at home
      have clear : middle.tree.isFolderAt middle.home path = false :=
        Bool.eq_false_iff.mpr fun there => noFolder ⟨middle, ensured, there⟩
      rw [← home] at fits
      have same := @writeThrough_eq_writeInPlace middle path text.toUTF8
        (ensureFolder_isFolderAt ensured) clear fits
      simp only [deliver, Bool.false_eq_true, ↓reduceIte, same]
  · intro size wrote
    obtain ⟨same, middle, last, -, delivered, tree, home⟩ := of_writeText_ok (Prod.ext wrote rfl)
    exact ⟨same, by rw [tree, home]; exact read_of_writeInPlace delivered⟩
  · intro failure failed plain
    refine FailsOnlyWith.bind (ensureFolder_failsWithFiles (hasNull_parent plain)) (fun _ => ?_) before
      failure failed
    refine (writeInPlace_failsWithFiles plain _).bind fun _ => ?_
    exact ((onlyLogs_log _ _ _).bind fun _ => onlyLogs_pure _).failsOnlyWith

/-- A file that is there is written over, by a path through a folder that is made first. -/
theorem writeText_agrees_replaced :
    let before : Workspace := ⟨⟨[(["home"], .folder), (["home", "old.ts"], .file "stale".toUTF8)]⟩,
      ["home"], .zero false, []⟩
    let path := Path.ofText "new/../old.ts"
    ¬ before.MeetsFolder path ∧
      temporaryFits (FileTree.resolve before.home path.parent) path.name = true ∧
      (writeText path "ä" true).result before = (writeText path "ä" false).result before ∧
      ((writeText path "ä" true).result before).2.tree.content? ["home", "old.ts"] =
        some "ä".toUTF8 := by
  intro before path
  have noFolder : ¬ before.MeetsFolder path := not_meetsFolder (by decide +kernel)
  have fits : temporaryFits (FileTree.resolve before.home path.parent) path.name = true := by
    decide +kernel
  exact ⟨noFolder, fits, (writeText_agrees "ä" noFolder fits).1, by decide +kernel⟩

/-- A file that is moved onto a folder goes into it, where writing in place fails. -/
theorem writeText_disagrees :
    let before : Workspace := ⟨⟨[(["home"], .folder), (["home", "d"], .folder)]⟩, ["home"],
      .zero false, []⟩
    let through := (writeText (.ofText "d") "t" true).result before
    let inPlace := (writeText (.ofText "d") "t" false).result before
    through.1.isOk = true ∧ through.2.tree.content? ["home", "d", ".d.RANDOM.tmp"] = some "t".toUTF8 ∧
      through.2.tree.isFolder ["home", "d"] = true ∧ inPlace.1.isOk = false ∧
      inPlace.2.tree.content? ["home", "d", ".d.RANDOM.tmp"] = none := by
  decide +kernel

end Action

end PrismaNest
