import PrismaNest.Proofs.Entries
import PrismaNest.Proofs.Files.Locations

/-! What is found in a tree after a change.

Putting an entry only matters at its own location, and erasing a new one undoes it. The changes that
go by a path happen where the path leads, and only if no folder would be lost by them.
-/

set_option autoImplicit false

namespace PrismaNest

namespace FileTree

variable {tree changed : FileTree} {home location asked : Location} {path : Path}
  {content : ByteArray}

@[simp] theorem lookUp?_top (tree : FileTree) : tree.lookUp? [] = some .folder :=
  rfl

-- Taking away what was put where nothing was gives the tree back.
theorem erase_put (absent : tree.lookUp? location = none) (entry : Entry) :
    (tree.put location entry).erase location = tree := by
  have inside : location ≠ [] := by
    rintro rfl
    cases absent
  have missing : ∀ existing ∈ tree.entries, existing.1 ≠ location := by
    rintro existing member rfl
    rw [lookUp?, if_neg inside, List.lookup_eq_none_iff] at absent
    simpa using absent existing member
  rw [erase, put, filter_putEntry_of_fresh missing]

theorem isFolder_iff : tree.isFolder location = true ↔ tree.lookUp? location = some .folder := by
  rw [isFolder]
  split
  · rename_i found
    simp [found]
  · rename_i other
    simpa using other

theorem not_isFolder_iff :
    tree.isFolder location = false ↔ tree.lookUp? location ≠ some .folder := by
  rw [← Bool.not_eq_true, isFolder_iff]

theorem ne_top_of_not_isFolder (clear : tree.isFolder location = false) : location ≠ [] := by
  rintro rfl
  cases clear

theorem content?_eq_some_iff :
    tree.content? location = some content ↔ tree.lookUp? location = some (.file content) := by
  rw [content?]
  split
  · rename_i found
    simp [found]
  · rename_i other
    simpa using other content

theorem at?_eq_some_iff {entry : Entry} : tree.at? home path = some entry ↔
    ∃ location, tree.locate home path = .ok location ∧ tree.lookUp? location = some entry := by
  rw [at?]
  cases tree.locate home path <;> simp

theorem isFileAt_iff : tree.isFileAt home path = true ↔
    ∃ location content, tree.locate home path = .ok location ∧
      tree.lookUp? location = some (.file content) := by
  rw [exists_comm]
  simp only [← at?_eq_some_iff, isFileAt]
  split
  · rename_i content found
    simp [found]
  · rename_i other
    simpa using other

theorem isFolderAt_iff : tree.isFolderAt home path = true ↔
    ∃ location, tree.locate home path = .ok location ∧ tree.lookUp? location = some .folder := by
  rw [← at?_eq_some_iff, isFolderAt]
  split
  · rename_i found
    simp [found]
  · rename_i other
    simpa using other

theorem isFolder_of_isFolderAt (found : tree.isFolderAt home path = true) :
    tree.isFolder (resolve home path) = true := by
  obtain ⟨location, located, there⟩ := isFolderAt_iff.mp found
  rw [← eq_resolve_of_locate located]
  exact isFolder_iff.mpr there

theorem makeFolder_ok (made : tree.makeFolder home path = .ok changed) :
    tree.lookUp? (resolve home path) = none ∧ changed = tree.put (resolve home path) .folder := by
  rw [makeFolder] at made
  split at made
  · cases made
  · rename_i place located
    rw [eq_resolve_of_locate located] at made
    split at made
    · rename_i absent
      cases made
      exact ⟨absent, rfl⟩
    · cases made

theorem overwrite_ok (written : tree.overwrite home path content = .ok changed) :
    tree.isFolder (resolve home path) = false ∧
      changed = tree.put (resolve home path) (.file content) := by
  rw [overwrite] at written
  split at written
  · cases written
  · rename_i place located
    rw [eq_resolve_of_locate located] at written
    split at written
    · cases written
    · rename_i other
      cases written
      exact ⟨not_isFolder_iff.mpr other, rfl⟩

end FileTree

end PrismaNest
