import PrismaNest.Files.Tree
import PrismaNest.Proofs.Text.Pieces

/-! Paths written as names with slashes between them.

A text without slashes in its names has one division into names. Reading it as a path keeps
the names that are neither empty nor a single point.
-/

set_option autoImplicit false

namespace PrismaNest

open Text

/-- A name that leads one step down. -/
structure IsName (name : String) : Prop where
  nonempty : name ≠ ""
  noPoint : name ≠ "."
  noStepBack : name ≠ ".."
  noSlash : Lacks '/' name

instance (name : String) : Decidable (IsName name) :=
  decidable_of_iff (name ≠ "" ∧ name ≠ "." ∧ name ≠ ".." ∧ Lacks '/' name)
    ⟨fun ⟨nonempty, noPoint, noStepBack, noSlash⟩ => ⟨nonempty, noPoint, noStepBack, noSlash⟩,
      fun proper => ⟨proper.nonempty, proper.noPoint, proper.noStepBack, proper.noSlash⟩⟩

-- More than two characters are neither a point nor a step back.
theorem isName_of_length {name : String} (long : 2 < name.length) (noSlash : Lacks '/' name) :
    IsName name := by
  refine ⟨?_, ?_, ?_, noSlash⟩
  · rintro rfl
    exact absurd long (by decide)
  · rintro rfl
    exact absurd long (by decide)
  · rintro rfl
    exact absurd long (by decide)

namespace Path

theorem splitOnP_slash (text : List Char) : text.splitOnP (· = '/') = text.splitOn '/' := by
  rw [List.splitOn_eq_splitOnP]
  congr 1

-- The pieces between the slashes of a text of names are the names.
theorem pieces_intercalate {names : List String} (proper : ∀ name ∈ names, Lacks '/' name)
    (inside : names ≠ []) :
    (((String.intercalate "/" names).toList.splitOnP (· = '/')).map String.ofList) = names := by
  rw [splitOnP_slash, splitOn_intercalate "/" '/' rfl proper inside, List.map_map]
  exact List.map_id'' (fun _ => String.ofList_toList) names

theorem toList_intercalate_slash (first : String) (rest : List String) :
    first.toList <+: (String.intercalate "/" (first :: rest)).toList := by
  cases rest with
  | nil =>
    simp only [String.intercalate_singleton, List.prefix_rfl]
  | cons second rest =>
    rw [String.intercalate_cons_cons, String.toList_append, String.toList_append,
      List.append_assoc]
    exact List.prefix_append _ _

theorem filter_names {names : List String} (proper : ∀ name ∈ names, IsName name) :
    names.filter (fun name => name != "" && name != ".") = names := by
  rw [List.filter_eq_self]
  intro name member
  simp [(proper name member).nonempty, (proper name member).noPoint]

-- A text that does not open with a slash is read as a relative path.
theorem ofText_intercalate {first : String} {rest : List String}
    (proper : ∀ name ∈ first :: rest, Lacks '/' name) (relative : first ≠ "") :
    ofText (String.intercalate "/" (first :: rest)) =
      ⟨"", (first :: rest).filter fun name => name != "" && name != "."⟩ := by
  obtain ⟨c, others, spelled⟩ := List.exists_cons_of_ne_nil (mt String.toList_eq_nil_iff.mp relative)
  have start : c ≠ '/' := by
    intro slash
    apply proper first List.mem_cons_self
    rw [spelled, slash]
    exact List.mem_cons_self
  have rootless : rootOf (String.intercalate "/" (first :: rest)).toList = "" := by
    obtain ⟨more, joined⟩ := toList_intercalate_slash first rest
    rw [← joined, spelled, List.cons_append, rootOf, List.takeWhile_cons_of_neg (by simpa using start)]
  rw [ofText, pieces_intercalate proper (List.cons_ne_nil _ _), rootless]

end Path

namespace FileTree

-- Names that do not step back are gone down one by one.
theorem resolve_eq_append {names : List String} (down : ∀ name ∈ names, name ≠ "..")
    (home : Location) : resolve home ⟨"", names⟩ = home ++ names := by
  rw [resolve, if_pos rfl]
  induction names generalizing home with
  | nil => exact (List.append_nil home).symm
  | cons name names ih =>
    rw [List.foldl_cons, if_neg (down name List.mem_cons_self),
      ih fun other member => down other (List.mem_cons_of_mem name member), List.append_assoc]
    rfl

end FileTree

end PrismaNest
