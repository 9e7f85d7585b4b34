import PrismaNest.Proofs.Files.Tree

/-! Trees that keep what they have.

A tree retains another if its folders are still folders and its files still files, whatever is in
them. A path that can be followed in the one can then be followed in the other. Nothing but a
change to a file lies behind a path that leads to that file.
-/

set_option autoImplicit false

namespace PrismaNest.FileTree

/-- Folders have stayed folders, and files have stayed files. -/
structure Retains (before after : FileTree) : Prop where
  folders : ∀ location, before.lookUp? location = some .folder →
    after.lookUp? location = some .folder
  files : ∀ location content, before.lookUp? location = some (.file content) →
    ∃ content, after.lookUp? location = some (.file content)

variable {tree before middle after : FileTree} {home location start : Location} {path : Path}
  {names : List String}

-- Nothing but folders is passed on the way.
theorem follow_of_folders
    (kept : ∀ location, before.lookUp? location = some .folder → after.lookUp? location = some .folder)
    (found : before.follow start names = .ok location) : after.follow start names = .ok location := by
  induction names generalizing start with
  | nil => exact found
  | cons name names ih =>
    obtain ⟨folder, steps⟩ := follow_cons_eq_ok_iff.mp found
    refine follow_cons_eq_ok_iff.mpr ⟨isFolder_iff.mpr (kept start (isFolder_iff.mp folder)), ?_⟩
    rcases steps with ⟨back, further⟩ | ⟨down, short, -, further⟩
    · exact .inl ⟨back, ih further⟩
    · refine .inr ⟨down, short, fun more => ?_, ih further⟩
      obtain ⟨second, rest, rfl⟩ := List.exists_cons_of_ne_nil more
      have passed := isFolder_iff.mp (follow_cons_eq_ok_iff.mp further).1
      rw [kept _ passed, Option.isSome_some]

theorem locate_of_folders
    (kept : ∀ location, before.lookUp? location = some .folder → after.lookUp? location = some .folder)
    (found : before.locate home path = .ok location) : after.locate home path = .ok location := by
  rw [locate] at found ⊢
  split at found
  · cases found
  · rename_i short
    rw [if_neg short]
    exact follow_of_folders kept found

-- A new file is no folder, so paths lead to the folders that they led to.
theorem isFolderAt_put_file (absent : tree.lookUp? location = none) (content : ByteArray)
    (home : Location) (path : Path) :
    (tree.put location (.file content)).isFolderAt home path = tree.isFolderAt home path := by
  have same : ∀ asked, (tree.put location (.file content)).lookUp? asked = some .folder ↔
      tree.lookUp? asked = some .folder := by
    intro asked
    by_cases top : asked = []
    · simp [top]
    · rw [lookUp?_put _ _ _ _ top]
      split
      · rename_i here
        simp [here, absent]
      · rfl
  rw [Bool.eq_iff_iff, isFolderAt_iff, isFolderAt_iff]
  constructor
  · rintro ⟨reached, located, there⟩
    exact ⟨reached, locate_of_folders (fun asked => (same asked).mp) located, (same reached).mp there⟩
  · rintro ⟨reached, located, there⟩
    exact ⟨reached, locate_of_folders (fun asked => (same asked).mpr) located, (same reached).mpr there⟩

namespace Retains

theorem refl (tree : FileTree) : tree.Retains tree where
  folders := fun _ found => found
  files := fun _ content found => ⟨content, found⟩

theorem trans (early : before.Retains middle) (late : middle.Retains after) :
    before.Retains after where
  folders := fun location found => late.folders location (early.folders location found)
  files := by
    intro location content found
    obtain ⟨between, kept⟩ := early.files location content found
    exact late.files location between kept

theorem of_same (same : ∀ location, after.lookUp? location = before.lookUp? location) :
    before.Retains after where
  folders := fun location found => (same location).trans found
  files := fun location content found => ⟨content, (same location).trans found⟩

theorem put_folder (absent : tree.lookUp? location = none) :
    tree.Retains (tree.put location .folder) := by
  have kept : ∀ asked entry, tree.lookUp? asked = some entry →
      (tree.put location .folder).lookUp? asked = some entry := by
    intro asked entry found
    by_cases top : asked = []
    · subst top
      exact found
    · rw [lookUp?_put _ _ _ _ top, if_neg, found]
      rintro rfl
      rw [absent] at found
      cases found
  exact ⟨fun asked found => kept asked _ found, fun asked content found => ⟨content, kept asked _ found⟩⟩

theorem put_file (clear : tree.isFolder location = false) (content : ByteArray) :
    tree.Retains (tree.put location (.file content)) where
  folders := by
    intro asked found
    by_cases top : asked = []
    · subst top
      rfl
    · rw [lookUp?_put _ _ _ _ top, if_neg, found]
      rintro rfl
      exact not_isFolder_iff.mp clear found
  files := by
    intro asked old found
    have top : asked ≠ [] := by
      rintro rfl
      cases found
    rw [lookUp?_put _ _ _ _ top]
    split
    · exact ⟨content, rfl⟩
    · exact ⟨old, found⟩

theorem locate (retained : before.Retains after) (found : before.locate home path = .ok location) :
    after.locate home path = .ok location :=
  locate_of_folders retained.folders found

end Retains

theorem Retains.isFileAt (retained : before.Retains after) (found : before.isFileAt home path = true) :
    after.isFileAt home path = true := by
  obtain ⟨location, content, located, reached⟩ := isFileAt_iff.mp found
  obtain ⟨kept, still⟩ := retained.files location content reached
  exact isFileAt_iff.mpr ⟨location, kept, retained.locate located, still⟩

-- Following more names goes on from where something was reached.
theorem follow_append (found : tree.follow start names = .ok location)
    (there : (tree.lookUp? location).isSome = true) (more : List String) :
    tree.follow start (names ++ more) = tree.follow location more := by
  induction names generalizing start with
  | nil =>
    cases found
    rfl
  | cons name names ih =>
    obtain ⟨folder, ⟨back, further⟩ | ⟨down, short, present, further⟩⟩ := follow_cons_eq_ok_iff.mp found
    · rw [List.cons_append, follow, folder, if_neg (by simp), if_pos back, ih further]
    · have reached : (tree.lookUp? (start ++ [name])).isSome = true := by
        cases names with
        | nil =>
          cases further
          exact there
        | cons second names => exact present (List.cons_ne_nil _ _)
      rw [List.cons_append, follow, folder, if_neg (by simp), if_neg down, if_neg (Nat.not_lt.mpr short),
        if_neg (by simp [Option.isSome_iff_ne_none.mp reached]), ih further]

-- Below a file nothing is looked for.
theorem locate_below_file (found : tree.isFileAt home path = true) (name : String) :
    tree.locate home ⟨path.root, path.names ++ [name]⟩ ≠ .error .notFound := by
  obtain ⟨location, content, located, reached⟩ := isFileAt_iff.mp found
  rw [locate] at located ⊢
  split at located
  · cases located
  · split
    · intro other
      cases other
    · have closed : tree.isFolder location = false := by
        rw [not_isFolder_iff, reached]
        intro same
        cases same
      have below := follow_append located (by rw [reached, Option.isSome_some]) [name]
      simp only [below, follow, closed]
      intro other
      cases other

end PrismaNest.FileTree
