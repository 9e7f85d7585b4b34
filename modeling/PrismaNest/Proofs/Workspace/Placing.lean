import PrismaNest.Proofs.Workspace.Retention

/-! Writes that succeed.

After a write that succeeds there are folders all along the path. The file is at its place; if a
folder is there, the file lies in it under a temporary name that nothing in the tree has had.
-/

set_option autoImplicit false

namespace PrismaNest

open Workspace

namespace FileTree

variable {tree changed : FileTree} {home location asked : Location} {path : Path}

theorem isFolder_of_follow {names way : List String} {start : Location}
    (found : tree.follow start names = .ok location) (leading : way <+: names)
    (shorter : way ≠ names) : tree.isFolder (resolve start ⟨"", way⟩) = true := by
  induction names generalizing start way with
  | nil => exact absurd (List.prefix_nil.mp leading) shorter
  | cons name names ih =>
    obtain ⟨folder, steps⟩ := follow_cons_eq_ok_iff.mp found
    cases way with
    | nil => exact folder
    | cons first way =>
      obtain ⟨rfl, further⟩ := List.cons_prefix_cons.mp leading
      have rest : way ≠ names := fun same => shorter (congrArg (first :: ·) same)
      rw [resolve_cons]
      rcases steps with ⟨rfl, back⟩ | ⟨down, -, -, reached⟩
      · rw [if_pos rfl]
        exact ih back further rest
      · rw [if_neg down]
        exact ih reached further rest

-- All on the way of a path that can be followed are folders, but for the end.
theorem isFolder_of_crosses (found : tree.locate home path = .ok location)
    (crossed : path.Crosses home asked) : asked = resolve home path ∨ tree.isFolder asked = true := by
  obtain ⟨way, leading, rfl⟩ := crossed
  by_cases whole : way = path.names
  · exact .inl (by rw [whole])
  · rw [locate] at found
    split at found
    · cases found
    · exact .inr (isFolder_of_follow found leading whole)

theorem isFolderAt_of_makeFolder (made : tree.makeFolder home path = .ok changed) :
    changed.isFolderAt home path = true := by
  obtain ⟨absent, rfl⟩ := makeFolder_ok made
  rw [makeFolder] at made
  split at made
  · cases made
  · rename_i place located
    have top : resolve home path ≠ [] := by
      intro top
      rw [top] at absent
      cases absent
    refine isFolderAt_iff.mpr ⟨place, (Retains.put_folder absent).locate located, ?_⟩
    rw [eq_resolve_of_locate located, lookUp?_put _ _ _ _ top, if_pos rfl]

theorem isFolder_of_isFolderAt_crosses (found : tree.isFolderAt home path = true)
    (crossed : path.Crosses home asked) : tree.isFolder asked = true := by
  obtain ⟨place, located, -⟩ := isFolderAt_iff.mp found
  rcases isFolder_of_crosses located crossed with rfl | folder
  · exact isFolder_of_isFolderAt found
  · exact folder

/-- Where a file comes to lie that is moved to a location: right there, or in the folder there,
under a temporary name for the file. -/
inductive Lands (tree : FileTree) (location : Location) (name : String) : Location → Prop where
  | atPlace (clear : tree.isFolder location = false) : Lands tree location name location
  | inFolder (there : tree.isFolder location = true) (attempt : Nat)
      (free : tree.lookUp? (location ++ [Action.temporaryName name attempt]) = none) :
      Lands tree location name (location ++ [Action.temporaryName name attempt])

end FileTree

/-- A file has come to where it lands, and nothing else has changed. -/
structure Workspace.Gains (before : Workspace) (place : Location) (content : ByteArray)
    (after : Workspace) : Prop where
  home : after.home = before.home
  tree : ∀ location, after.tree.lookUp? location =
    if location = place then some (.file content) else before.tree.lookUp? location

namespace Action

variable {before after : Workspace} {path : Path} {content : ByteArray} {asked : Location}

theorem tryFolder_isFolderAt (made : (tryFolder path).result before = (.ok true, after)) :
    after.tree.isFolderAt after.home path = true := by
  rw [result_tryFolder] at made
  split at made
  · cases made
  · split at made
    · rename_i tree added
      cases made
      exact FileTree.isFolderAt_of_makeFolder added
    · cases made
    · split at made
      · rename_i there
        cases made
        exact there
      · cases made

theorem makeFolder_isFolderAt (made : (makeFolder path).result before = (.ok (), after)) :
    after.tree.isFolderAt after.home path = true := by
  obtain ⟨tried, middle, ran, ended⟩ := of_result_bind_ok made
  cases tried with
  | false => cases ended
  | true =>
    cases ended
    exact tryFolder_isFolderAt ran

theorem makeFoldersUp_isFolderAt {root : String} {upwards : List String}
    (made : (makeFoldersUp root upwards).result before = (.ok (), after)) :
    after.tree.isFolderAt after.home ⟨root, upwards.reverse⟩ = true := by
  cases upwards with
  | nil => exact makeFolder_isFolderAt made
  | cons name above =>
    rw [makeFoldersUp_cons] at made
    obtain ⟨tried, middle, ran, ended⟩ := of_result_bind_ok made
    cases tried with
    | false =>
      -- The folders above are made first, and then the folder itself.
      obtain ⟨_, later, -, last⟩ := of_result_bind_ok ended
      exact makeFolder_isFolderAt last
    | true =>
      cases ended
      exact tryFolder_isFolderAt ran

-- A folder that could be ensured is there.
theorem ensureFolder_isFolderAt (made : (ensureFolder path).result before = (.ok (), after)) :
    after.tree.isFolderAt after.home path = true := by
  obtain ⟨_, middle, raised, logged⟩ := of_result_bind_ok made
  have there := makeFoldersUp_isFolderAt raised
  rw [List.reverse_reverse] at there
  cases logged
  exact there

theorem ensureFolder_ok (made : (ensureFolder path).result before = (.ok (), after))
    (crossed : path.Crosses before.home asked) : after.tree.isFolder asked = true := by
  have home := (ensureFolder_grows path before).home
  rw [made] at home
  rw [← home] at crossed
  exact FileTree.isFolder_of_isFolderAt_crosses (ensureFolder_isFolderAt made) crossed

theorem overwritten_ok (wrote : before.overwritten path content = (.ok (), after)) :
    before.tree.isFolder (FileTree.resolve before.home path) = false ∧
      before.Gains (FileTree.resolve before.home path) content after := by
  rw [overwritten] at wrote
  split at wrote
  · rename_i tree overwrote
    cases wrote
    obtain ⟨clear, rfl⟩ := FileTree.overwrite_ok overwrote
    refine ⟨clear, rfl, fun location => ?_⟩
    by_cases top : location = []
    · rw [top, if_neg fun same => FileTree.ne_top_of_not_isFolder clear same.symm]
      rfl
    · exact FileTree.lookUp?_put _ _ _ _ top
  · cases wrote

theorem writeThrough_ok (wrote : (writeThrough path content).result before = (.ok (), after)) :
    ∃ place, before.tree.Lands (FileTree.resolve before.home path) path.name place ∧
      before.Gains place content after := by
  rcases writeThrough_cases path content before with ⟨failure, ran⟩ | ⟨there, ran⟩ | ⟨-, ran⟩
  · rw [ran] at wrote
    cases wrote
  · -- The file has gone into the folder at its place.
    obtain ⟨-, attempt, name⟩ := freeName_spec before.tree path.name
    have free := lookUp?_freeName before.tree (FileTree.resolve before.home path) path.name
    have gains := (overwritten_ok (ran.symm.trans wrote)).2
    rw [name] at free gains
    have down : ∀ step ∈ [temporaryName path.name attempt], step ≠ ".." := by
      rintro step member rfl
      have long := length_temporaryName path.name attempt
      rw [← List.mem_singleton.mp member] at long
      exact absurd long (by decide)
    have into : FileTree.resolve before.home (path.under ⟨"", [temporaryName path.name attempt]⟩) =
        FileTree.resolve before.home path ++ [temporaryName path.name attempt] :=
      (FileTree.resolve_append _ _ _ _).trans (FileTree.resolve_eq_append down _)
    rw [into] at gains
    exact ⟨_, .inFolder (FileTree.isFolder_of_isFolderAt there) attempt free, gains⟩
  · obtain ⟨clear, gains⟩ := overwritten_ok (ran.symm.trans wrote)
    exact ⟨_, .atPlace clear, gains⟩

/-- A write that succeeds has made all folders on the way, and then put the file where it lands. -/
theorem writeText_ok {text : String} {size : Nat}
    (wrote : (writeText path text true).result before = (.ok size, after)) :
    ∃ middle, before.GrowsAlong path.parent middle ∧
      (∀ asked, path.parent.Crosses before.home asked → middle.tree.isFolder asked = true) ∧
      ∃ place, middle.tree.Lands (FileTree.resolve before.home path) path.name place ∧
        middle.Gains place text.toUTF8 after := by
  obtain ⟨-, middle, last, ensured, delivered, tree, home⟩ := of_writeText_ok wrote
  have grown := ensureFolder_grows path.parent before
  rw [ensured] at grown
  obtain ⟨place, lands, gains⟩ := writeThrough_ok delivered
  rw [grown.home] at lands
  exact ⟨middle, grown, fun asked => ensureFolder_ok ensured, place, lands,
    ⟨home.trans gains.home, by rw [tree]; exact gains.tree⟩⟩

end Action

end PrismaNest
