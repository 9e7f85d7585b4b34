import PrismaNest.Proofs.Files.Names
import PrismaNest.Proofs.Text.Pieces
import PrismaNest.Proofs.Text.Runs

/-! Paths and their texts.

A path that is read from a text has no empty names, no single points and no slashes in its
names, and so have the paths made from it. The text of such a path is read as the same path, so
that a text can stand for it where a failure names it.
-/

set_option autoImplicit false

namespace PrismaNest

open Text

/-- A name on a path: a step down, or a step back. -/
structure IsStep (name : String) : Prop where
  nonempty : name ≠ ""
  noPoint : name ≠ "."
  noSlash : Lacks '/' name

theorem IsName.isStep {name : String} (isName : IsName name) : IsStep name :=
  ⟨isName.nonempty, isName.noPoint, isName.noSlash⟩

namespace Path

/-- A path as it is read from a text. -/
structure IsNormal (path : Path) : Prop where
  root : path.root = "" ∨ path.root = "/" ∨ path.root = "//"
  names : ∀ name ∈ path.names, IsStep name

theorem rootOf_cases (text : List Char) :
    rootOf text = "" ∨ rootOf text = "/" ∨ rootOf text = "//" := by
  unfold rootOf
  split
  · exact .inl rfl
  · exact .inr (.inr rfl)
  · exact .inr (.inl rfl)

theorem isNormal_ofText (text : String) : (ofText text).IsNormal where
  root := rootOf_cases text.toList
  names := by
    intro name member
    obtain ⟨listed, kept⟩ := List.mem_filter.mp member
    obtain ⟨piece, isPiece, rfl⟩ := List.mem_map.mp listed
    simp only [Bool.and_eq_true, bne_iff_ne] at kept
    refine ⟨kept.1, kept.2, lacks_ofList.mpr fun slash => ?_⟩
    exact absurd (not_of_mem_splitOnP isPiece '/' slash) (by decide)

theorem IsNormal.parent {path : Path} (normal : path.IsNormal) : path.parent.IsNormal where
  root := normal.root
  names := fun name member => normal.names name (List.dropLast_subset _ member)

theorem IsNormal.under {folder path : Path} (normal : folder.IsNormal) (inside : path.IsNormal) :
    (folder.under path).IsNormal := by
  unfold Path.under
  split
  · refine ⟨normal.root, fun name member => ?_⟩
    rcases List.mem_append.mp member with above | below
    · exact normal.names name above
    · exact inside.names name below
  · exact inside

theorem IsNormal.of_prefix {root : String} {names others : List String}
    (normal : IsNormal ⟨root, others⟩) (leading : names <+: others) : IsNormal ⟨root, names⟩ where
  root := normal.root
  names := fun name member => normal.names name (leading.subset member)

theorem filter_steps {names : List String} (proper : ∀ name ∈ names, IsStep name) :
    names.filter (fun name => name != "" && name != ".") = names := by
  rw [List.filter_eq_self]
  intro name member
  simp [(proper name member).nonempty, (proper name member).noPoint]

theorem startsOutside_intercalate {first : String} (step : IsStep first) (rest : List String) :
    StartsOutside (fun c => decide (c = '/')) (String.intercalate "/" (first :: rest)).toList := by
  obtain ⟨c, others, spelled⟩ :=
    List.exists_cons_of_ne_nil (mt String.toList_eq_nil_iff.mp step.nonempty)
  obtain ⟨more, joined⟩ := toList_intercalate_slash first rest
  intro d start
  rw [← joined, spelled] at start
  cases start
  exact step.noSlash.decide_eq_false c (spelled ▸ List.mem_cons_self)

-- Slashes in front give no names.
theorem names_slashes {slashes : List Char} (all : ∀ c ∈ slashes, decide (c = '/') = true)
    (text : List Char) :
    (((slashes ++ text).splitOnP (· = '/')).map String.ofList).filter
        (fun name => name != "" && name != ".") =
      ((text.splitOnP (· = '/')).map String.ofList).filter
        fun name => name != "" && name != "." := by
  induction slashes with
  | nil => rfl
  | cons c slashes ih =>
    rw [List.cons_append, List.splitOnP_cons_eq_if_modifyHead, if_pos (all c List.mem_cons_self),
      List.map_cons, List.filter_cons_of_neg (by decide)]
    exact ih fun d member => all d (List.mem_cons_of_mem c member)

theorem ofText_rooted {root : String} {slashes : List Char} (opened : root.toList = slashes)
    (all : ∀ c ∈ slashes, decide (c = '/') = true)
    (read : ∀ text, StartsOutside (fun c => decide (c = '/')) text → rootOf (slashes ++ text) = root)
    {first : String} {rest : List String} (proper : ∀ name ∈ first :: rest, IsStep name) :
    ofText (root ++ String.intercalate "/" (first :: rest)) = ⟨root, first :: rest⟩ := by
  have start := startsOutside_intercalate (proper first List.mem_cons_self) rest
  have pieces := pieces_intercalate (fun name member => (proper name member).noSlash)
    (List.cons_ne_nil first rest)
  rw [ofText, String.toList_append, opened, read _ start, names_slashes all, pieces,
    filter_steps proper]

theorem ofText_toText {path : Path} (normal : path.IsNormal) : ofText path.toText = path := by
  obtain ⟨root, names⟩ := path
  obtain ⟨rooted, proper⟩ := normal
  cases names with
  | nil => rcases rooted with rfl | rfl | rfl <;> decide
  | cons first rest =>
    have text : toText ⟨root, first :: rest⟩ = root ++ String.intercalate "/" (first :: rest) := by
      simp [toText]
    rw [text]
    rcases rooted with rfl | rfl | rfl
    · rw [String.empty_append, ofText_intercalate
        (fun name member => (proper name member).noSlash) (proper first List.mem_cons_self).nonempty,
        filter_steps proper]
    · apply ofText_rooted (rfl : "/".toList = ['/']) (by simp) _ proper
      intro names start
      rw [rootOf, takeWhile_run (by simp) start]
      rfl
    · apply ofText_rooted (rfl : "//".toList = ['/', '/']) (by simp) _ proper
      intro names start
      rw [rootOf, takeWhile_run (by simp) start]
      rfl

theorem ofText_toText_ofText (text : String) : ofText (ofText text).toText = ofText text :=
  ofText_toText (isNormal_ofText text)

end Path

end PrismaNest
