import Mathlib.Data.List.Infix
import PrismaNest.Proofs.Files.Names

/-! Where paths lead.

A path that can be followed in a tree leads to the location its names spell, with each step
back undone. On the way it crosses the locations of its leading parts.
-/

set_option autoImplicit false

namespace PrismaNest

/-- The locations on the way of a path, its own among them. -/
def Path.Crosses (home : Location) (path : Path) (location : Location) : Prop :=
  ∃ way, way <+: path.names ∧ FileTree.resolve home ⟨path.root, way⟩ = location

instance (home : Location) (path : Path) (location : Location) :
    Decidable (path.Crosses home location) :=
  decidable_of_iff (∃ way ∈ path.names.inits, FileTree.resolve home ⟨path.root, way⟩ = location)
    (exists_congr fun way => and_congr_left fun _ => List.mem_inits way path.names)

namespace FileTree

theorem resolve_cons (home : Location) (name : String) (names : List String) :
    resolve home ⟨"", name :: names⟩ =
      resolve (if name = ".." then home.dropLast else home ++ [name]) ⟨"", names⟩ :=
  rfl

theorem resolve_append (home : Location) (root : String) (way names : List String) :
    resolve home ⟨root, way ++ names⟩ = resolve (resolve home ⟨root, way⟩) ⟨"", names⟩ := by
  simp only [resolve, List.foldl_append, ↓reduceIte]

variable {tree : FileTree} {home location : Location} {path : Path}

-- What one step of following a path asks for.
theorem follow_cons_eq_ok_iff {name : String} {names : List String} {start : Location} :
    tree.follow start (name :: names) = .ok location ↔ tree.isFolder start = true ∧
      (name = ".." ∧ tree.follow start.dropLast names = .ok location ∨
        name ≠ ".." ∧ name.utf8ByteSize ≤ maxNameSize ∧
          (names ≠ [] → (tree.lookUp? (start ++ [name])).isSome = true) ∧
          tree.follow (start ++ [name]) names = .ok location) := by
  rw [follow]
  cases tree.isFolder start with
  | false => simp
  | true =>
    by_cases back : name = ".."
    · simp [back]
    · by_cases long : maxNameSize < name.utf8ByteSize
      · simp [back, long, Nat.not_le.mpr long]
      · cases there : tree.lookUp? (start ++ [name]) <;> cases names <;> simp [back, Nat.le_of_not_lt, long]

theorem eq_resolve_of_follow {names : List String} {start : Location}
    (found : tree.follow start names = .ok location) : location = resolve start ⟨"", names⟩ := by
  induction names generalizing start with
  | nil =>
    cases found
    rfl
  | cons name names ih =>
    rw [resolve_cons]
    obtain ⟨-, ⟨rfl, back⟩ | ⟨down, -, -, further⟩⟩ := follow_cons_eq_ok_iff.mp found
    · rw [if_pos rfl]
      exact ih back
    · rw [if_neg down]
      exact ih further

theorem eq_resolve_of_locate (found : tree.locate home path = .ok location) :
    location = resolve home path := by
  rw [locate] at found
  split at found
  · cases found
  · exact eq_resolve_of_follow found

end FileTree

end PrismaNest
