import PrismaNest.Proofs.Workspace.Additions
import PrismaNest.Proofs.Workspace.Results

/-! Making folders.

Whether or not a folder can be made in the end, all that changes is that places on the way of
its path become folders where nothing was.
-/

set_option autoImplicit false

namespace PrismaNest

/-- Nothing has changed but that some places on the way of a path have become folders. -/
def Workspace.GrowsAlong (path : Path) (before after : Workspace) : Prop :=
  before.Adds [] (path.Crosses before.home) after

namespace Workspace.GrowsAlong

variable {path longer : Path} {first second third : Workspace}

theorem refl (path : Path) (workspace : Workspace) : workspace.GrowsAlong path workspace :=
  Adds.refl workspace _

theorem trans (early : first.GrowsAlong path second) (late : second.GrowsAlong path third) :
    first.GrowsAlong path third := by
  have later : second.Adds [] (path.Crosses first.home) third := by
    have kept : second.Adds [] (path.Crosses second.home) third := late
    rwa [early.home] at kept
  exact Adds.trans early later fun _ member => nomatch member

theorem mono (grown : first.GrowsAlong path second) (sameRoot : longer.root = path.root)
    (further : path.names <+: longer.names) : first.GrowsAlong longer second := by
  refine Adds.mono grown ?_
  rintro location ⟨way, leading, reached⟩
  exact ⟨way, leading.trans further, by rw [sameRoot, reached]⟩

theorem put_folder {workspace : Workspace}
    (absent : workspace.tree.lookUp? (FileTree.resolve workspace.home path) = none) :
    workspace.GrowsAlong path { workspace with
      tree := workspace.tree.put (FileTree.resolve workspace.home path) .folder } where
  home := rfl
  written := fun _ member => nomatch member
  elsewhere := by
    intro location _
    by_cases top : location = []
    · subst top
      exact .inl rfl
    · simp only [FileTree.lookUp?_put _ _ _ _ top]
      split
      · rename_i here
        exact .inr ⟨here ▸ absent, rfl, path.names, List.prefix_rfl, here.symm⟩
      · exact .inl rfl

end Workspace.GrowsAlong

namespace Action

open Workspace

theorem tryFolder_grows (path : Path) : Keeps (GrowsAlong path) (tryFolder path) := by
  intro workspace
  rw [result_tryFolder]
  split
  · exact GrowsAlong.refl path workspace
  · split
    · rename_i tree made
      obtain ⟨absent, rfl⟩ := FileTree.makeFolder_ok made
      exact GrowsAlong.put_folder absent
    · exact GrowsAlong.refl path workspace
    · split
      · exact GrowsAlong.refl path workspace
      · exact GrowsAlong.refl path workspace

/-- Makes a folder in one that has to be there. -/
def makeFolder (path : Path) : Action Unit := do
  if !(← tryFolder path) then fail (.file .notFound path.toText)

theorem makeFoldersUp_cons (root name : String) (above : List String) :
    makeFoldersUp root (name :: above) = (do
      if !(← tryFolder ⟨root, (name :: above).reverse⟩) then
        makeFoldersUp root above
        makeFolder ⟨root, (name :: above).reverse⟩) :=
  rfl

theorem makeFolder_grows (path : Path) : Keeps (GrowsAlong path) (makeFolder path) := by
  refine (tryFolder_grows path).bind GrowsAlong.trans fun made => ?_
  split
  · exact keeps_fail (GrowsAlong.refl path) _
  · exact keeps_pure (GrowsAlong.refl path) ()

theorem makeFoldersUp_grows (root : String) (upwards : List String) :
    Keeps (GrowsAlong ⟨root, upwards.reverse⟩) (makeFoldersUp root upwards) := by
  induction upwards with
  | nil => exact makeFolder_grows ⟨root, []⟩
  | cons name above ih =>
    -- What lies on the way of the shorter path lies on the way of this one.
    have shorter : above.reverse <+: (name :: above).reverse := by
      rw [List.reverse_cons]
      exact List.prefix_append _ _
    have further : Keeps (GrowsAlong ⟨root, (name :: above).reverse⟩) (makeFoldersUp root above) :=
      fun workspace => (ih workspace).mono rfl shorter
    rw [makeFoldersUp_cons]
    refine (tryFolder_grows _).bind GrowsAlong.trans fun made => ?_
    split
    · exact further.bind GrowsAlong.trans fun _ => makeFolder_grows _
    · exact keeps_pure (GrowsAlong.refl _) ()

theorem log_grows (path : Path) (severity : Severity) (origin : Origin) (message : String) :
    Keeps (GrowsAlong path) (log severity origin message) := by
  intro workspace
  exact Adds.congr (Adds.refl workspace _) rfl rfl

theorem ensureFolder_grows (path : Path) : Keeps (GrowsAlong path) (ensureFolder path) := by
  have made := makeFoldersUp_grows path.root path.names.reverse
  rw [List.reverse_reverse] at made
  exact Keeps.bind made GrowsAlong.trans fun _ => log_grows path _ _ _

end Action

end PrismaNest
