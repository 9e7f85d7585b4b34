import PrismaNest.Proofs.Files.Tree
import PrismaNest.Workspace.Basic

/-! What is added to a workspace.

A workspace gains some files, and folders at some places where nothing was. Everything else in
its tree stays. Additions one after another are one addition, as long as no file is written
twice.
-/

set_option autoImplicit false

namespace PrismaNest.Workspace

/-- The later workspace has the files given, and new folders only at the places named. -/
structure Adds (before : Workspace) (files : List (Location × ByteArray))
    (place : Location → Prop) (after : Workspace) : Prop where
  home : after.home = before.home
  written : ∀ file ∈ files, after.tree.lookUp? file.1 = some (.file file.2)
  elsewhere : ∀ location, location ∉ files.map Prod.fst →
    after.tree.lookUp? location = before.tree.lookUp? location ∨
      (before.tree.lookUp? location = none ∧
        after.tree.lookUp? location = some .folder ∧ place location)

namespace Adds

variable {before middle after : Workspace} {files more : List (Location × ByteArray)}
  {place other : Location → Prop} {location : Location}

theorem refl (workspace : Workspace) (place : Location → Prop) : workspace.Adds [] place workspace where
  home := rfl
  written := fun _ member => nomatch member
  elsewhere := fun _ _ => .inl rfl

theorem of_same (home : after.home = before.home)
    (same : ∀ location, after.tree.lookUp? location = before.tree.lookUp? location)
    (place : Location → Prop) : before.Adds [] place after where
  home
  written := fun _ member => nomatch member
  elsewhere := fun location _ => .inl (same location)

theorem congr {later : Workspace} (added : before.Adds files place after)
    (home : later.home = after.home) (tree : later.tree = after.tree) :
    before.Adds files place later where
  home := home.trans added.home
  written := by
    rw [tree]
    exact added.written
  elsewhere := by
    rw [tree]
    exact added.elsewhere

theorem mono (added : before.Adds files place after)
    (wider : ∀ location, place location → other location) : before.Adds files other after where
  home := added.home
  written := added.written
  elsewhere := by
    intro location unwritten
    exact (added.elsewhere location unwritten).imp_right
      fun ⟨absent, made, placed⟩ => ⟨absent, made, wider location placed⟩

theorem trans (first : before.Adds files place middle) (second : middle.Adds more place after)
    (apart : ∀ file ∈ files, file.1 ∉ more.map Prod.fst) :
    before.Adds (files ++ more) place after where
  home := second.home.trans first.home
  written := by
    intro file member
    rcases List.mem_append.mp member with early | late
    · have there := first.written file early
      rcases second.elsewhere file.1 (apart file early) with same | ⟨absent, -⟩
      · exact same.trans there
      · rw [there] at absent
        cases absent
    · exact second.written file late
  elsewhere := by
    intro location unwritten
    rw [List.map_append, List.mem_append, not_or] at unwritten
    rcases second.elsewhere location unwritten.2 with same | ⟨absent, made, placed⟩
    · rw [same]
      exact first.elsewhere location unwritten.1
    · refine .inr ⟨?_, made, placed⟩
      -- Where the second addition made a folder, the first cannot have left anything.
      rcases first.elsewhere location unwritten.1 with same | ⟨_, made, _⟩
      · exact same.symm.trans absent
      · rw [absent] at made
        cases made

-- No folder comes to a place that is not named.
theorem not_isFolder (added : before.Adds files place after) (clear : ¬ place location)
    (was : before.tree.isFolder location = false) : after.tree.isFolder location = false := by
  rw [FileTree.not_isFolder_iff] at was ⊢
  by_cases written : location ∈ files.map Prod.fst
  · obtain ⟨file, member, rfl⟩ := List.mem_map.mp written
    rw [added.written file member]
    exact fun same => nomatch same
  · rcases added.elsewhere location written with same | ⟨_, _, placed⟩
    · rwa [same]
    · exact absurd placed clear

theorem content?_of_mem (added : before.Adds files place after) {content : ByteArray}
    (member : (location, content) ∈ files) : after.tree.content? location = some content :=
  FileTree.content?_eq_some_iff.mpr (added.written _ member)

-- A file that is not written stays as it was, and no other file comes.
theorem content?_elsewhere (added : before.Adds files place after)
    (unwritten : location ∉ files.map Prod.fst) :
    after.tree.content? location = before.tree.content? location := by
  rcases added.elsewhere location unwritten with same | ⟨absent, made, _⟩
  · simp only [FileTree.content?, same]
  · simp only [FileTree.content?, absent, made]

end Adds

end PrismaNest.Workspace
