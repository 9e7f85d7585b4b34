import PrismaNest.Proofs.Workspace.Reading

/-! Writing to a plain path.

A plain path goes down by its names, so that the folders made on the way to a file lie above it and
never where it goes. A write to such a path gives the file or fails; either way nothing else changes,
but for folders that were missing above the file.
-/

set_option autoImplicit false

namespace PrismaNest

/-- A path down by names, the last of which is that of a file. -/
structure Path.IsPlain (path : Path) : Prop where
  inside : path.names ≠ []
  proper : ∀ name ∈ path.names, IsName name

instance (path : Path) : Decidable path.IsPlain :=
  decidable_of_iff (path.names ≠ [] ∧ ∀ name ∈ path.names, IsName name)
    ⟨fun parts => ⟨parts.1, parts.2⟩, fun plain => ⟨plain.inside, plain.proper⟩⟩

namespace FileTree

/-- A location in whose folder, or further in, another one lies. -/
def Above (below location : Location) : Prop :=
  location <+: below ∧ location ≠ below

-- What is crossed on the way to the folder of a plain path lies above the path.
theorem above_of_crosses {home location : Location} {path : Path} (plain : path.IsPlain)
    (crossed : path.parent.Crosses home location) : Above (resolve home path) location := by
  obtain ⟨way, leading, rfl⟩ := crossed
  have whole : way <+: path.names := leading.trans (List.dropLast_prefix path.names)
  have down : ∀ names, names <+: path.names →
      resolve home ⟨path.root, names⟩ = resolve home ⟨path.root, []⟩ ++ names := by
    intro names part
    refine (resolve_append home path.root [] names).trans (resolve_eq_append (fun name member => ?_) _)
    exact (plain.proper name (part.subset member)).noStepBack
  have target : resolve home path = resolve home ⟨path.root, []⟩ ++ path.names :=
    down path.names List.prefix_rfl
  rw [target]
  change Above _ (resolve home ⟨path.root, way⟩)
  rw [down way whole]
  refine ⟨(List.prefix_append_right_inj _).mpr whole, fun same => ?_⟩
  -- The last name is not on the way.
  obtain rfl : way = path.names := List.append_cancel_left same
  have shorter := leading.length_le
  have inside := List.length_pos_of_ne_nil plain.inside
  rw [Path.parent, List.length_dropLast] at shorter
  omega

end FileTree

/-- What a write of a text to a path may come to. If it succeeds it gives the number of bytes, the file
at the path holds them, and nothing else is new but folders above it; if it fails, nothing is new but
such folders. Whatever was there before has stayed as it was, but for the file that is written. -/
def Workspace.Writes (before : Workspace) (path : Path) (text : String) :
    Except Failure Nat × Workspace → Prop
  | (.ok size, after) =>
    size = text.toUTF8.size ∧ after.tree.read after.home path = .ok text.toUTF8 ∧
      before.Adds [(FileTree.resolve before.home path, text.toUTF8)]
        (FileTree.Above (FileTree.resolve before.home path)) after
  | (.error _, after) => before.Adds [] (FileTree.Above (FileTree.resolve before.home path)) after

namespace Action

open Workspace

variable {before : Workspace} {path : Path}

/-- Where no folder is at a plain path, a write in either of the two ways gives exactly the file, or
fails and leaves all files as they were. No temporary file stays, and only folders above the path may
have been made. -/
theorem writeText_harmless (plain : path.IsPlain) (text : String) (atomic : Bool)
    (clear : before.tree.isFolder (FileTree.resolve before.home path) = false) :
    before.Writes path text ((writeText path text atomic).result before) := by
  have aside : ¬ path.parent.Crosses before.home (FileTree.resolve before.home path) :=
    fun crossed => (FileTree.above_of_crosses plain crossed).2 rfl
  have attempts := writeText_attempts text atomic (fun _ => clear) (fun _ => aside)
  rcases ran : (writeText path text atomic).result before with ⟨failure | size, after⟩
  · rw [ran] at attempts
    exact Adds.mono attempts fun _ => FileTree.above_of_crosses plain
  · rw [ran] at attempts
    have noFolder : ¬ before.MeetsFolder path := by
      rintro ⟨middle, ensured, there⟩
      have grown := ensureFolder_grows path.parent before
      rw [ensured] at grown
      have folder := FileTree.isFolder_of_isFolderAt there
      rw [grown.home, grown.not_isFolder aside clear] at folder
      exact Bool.false_ne_true folder
    exact ⟨(of_writeText_ok ran).1, (read_of_writeText (fun _ => noFolder) ran).2,
      Adds.mono attempts fun _ => FileTree.above_of_crosses plain⟩

/-- A file in folders that are made for it, and one that is blocked by another file. -/
theorem writeText_harmless_blocked :
    let before : Workspace := ⟨⟨[(["home"], .folder), (["home", "old.ts"], .file "stale".toUTF8)]⟩,
      ["home"], .zero false, []⟩
    let inside := Path.ofText "new/in/a.ts"
    let below := Path.ofText "old.ts/in/a.ts"
    (∀ path ∈ [inside, below], path.IsPlain ∧
      before.tree.isFolder (FileTree.resolve before.home path) = false ∧
      before.Writes path "ä" ((writeText path "ä" true).result before)) ∧
      ((writeText inside "ä" true).result before).1.isOk = true ∧
      ((writeText below "ä" true).result before).1.isOk = false := by
  intro before inside below
  have plain : ∀ path ∈ [inside, below], path.IsPlain := by decide +kernel
  have clear : ∀ path ∈ [inside, below],
      before.tree.isFolder (FileTree.resolve before.home path) = false := by decide +kernel
  refine ⟨fun path member => ⟨plain path member, clear path member, ?_⟩, by decide +kernel,
    by decide +kernel⟩
  exact writeText_harmless (plain path member) "ä" true (clear path member)

end Action

end PrismaNest
