import PrismaNest.Proofs.Naming.Seams
import PrismaNest.Proofs.Naming.Words
import PrismaNest.Proofs.Text.Pieces
import PrismaNest.Schema.Basic

/-! Plurals of names of several words.

A plural is made of the whole name, and the words are found afterwards. An ending of small letters
goes on with the last word only if that word ends in a way that lets it. After a digit, a separator or
a run of capitals the ending changes the words, and so does the capital Y that it replaces.
-/

set_option autoImplicit false

namespace PrismaNest.Naming

open Text

/-- Names whose plural has all words of the name but the last. -/
inductive PluralizesLast (name : String) : Prop where
  | irregular {form : String} : irregularPlurals.lookup (lower name) = some form →
      (words name).length = 1 → PluralizesLast name
  | unchanged : plural name = name → PluralizesLast name
  | ending {letters : String} : letters ∈ ["s", "es"] → plural name = name ++ letters →
      goesOn name.toList = true → PluralizesLast name
  | smallY {stem : String} : name = stem ++ "y" → plural name = stem ++ "ies" → PluralizesLast name
  | capitalY {stem : String} : name = stem ++ "Y" → plural name = stem ++ "ies" →
      goesOn stem.toList = endsCapital stem.toList → PluralizesLast name

theorem regularPlural_cases (name : String) (small : List Char) :
    (small.head? = some 's' ∧ regularPlural name small = name) ∨
      (∃ letters ∈ ["s", "es"], regularPlural name small = name ++ letters) ∨
      (small.head? = some 'y' ∧
        regularPlural name small = String.ofList name.toList.dropLast ++ "ies") := by
  unfold regularPlural
  split
  case h_7 =>
    split
    · exact .inr (.inl ⟨"s", by simp, rfl⟩)
    · exact .inr (.inr ⟨rfl, rfl⟩)
  case h_2 => exact .inl ⟨rfl, rfl⟩
  case h_8 => exact .inr (.inl ⟨"s", by simp, rfl⟩)
  all_goals exact .inr (.inl ⟨"es", by simp, rfl⟩)

-- The ways in which a plural is made.
theorem plural_cases {name : String} (named : name ≠ "") :
    (∃ form, irregularPlurals.lookup (lower name) = some form ∧
      plural name ∈ [form, capitalize form]) ∨
    (plural name = name ∧ ∃ stem, name = stem ++ "s" ∨ name = stem ++ "S") ∨
    (∃ letters ∈ ["s", "es"], plural name = name ++ letters) ∨
    ∃ stem, (name = stem ++ "y" ∨ name = stem ++ "Y") ∧ plural name = stem ++ "ies" := by
  unfold plural
  simp only [named, ↓reduceIte]
  split
  · rename_i form found
    refine .inl ⟨form, found, ?_⟩
    split <;> simp
  · rcases regularPlural_cases name (lower name).toList.reverse with
      ⟨ends, same⟩ | added | ⟨ends, replaced⟩
    · rw [List.head?_reverse] at ends
      exact .inr (.inl ⟨same, lowersAlone_s.exists_stem ends⟩)
    · exact .inr (.inr (.inl added))
    · rw [List.head?_reverse] at ends
      obtain ⟨stem, spelled⟩ := lowersAlone_y.exists_stem ends
      have front : String.ofList name.toList.dropLast = stem := by
        rcases spelled with rfl | rfl <;> simp
      exact .inr (.inr (.inr ⟨stem, spelled, front ▸ replaced⟩))

theorem isSmall_of_mem_endings {letters : String} (member : letters ∈ ["s", "es"]) :
    IsSmall letters.toList := by
  have all : ∀ letters ∈ ["s", "es"], letters.toList ≠ [] ∧ letters.toList.all Char.isLower = true := by
    decide
  exact ⟨(all letters member).1, List.all_eq_true.mp (all letters member).2⟩

theorem isSmall_ies : IsSmall "ies".toList :=
  ⟨by decide, List.all_eq_true.mp (by decide)⟩

theorem isSmall_y : IsSmall "y".toList :=
  ⟨by decide, List.all_eq_true.mp (by decide)⟩

theorem length_words_of_irregular {small form : String}
    (found : irregularPlurals.lookup small = some form) :
    ∀ written ∈ [form, capitalize form], (words written).length = 1 := by
  have all : ∀ entry ∈ irregularPlurals, ∀ written ∈ [entry.2, capitalize entry.2],
      (words written).length = 1 := by decide +kernel
  obtain ⟨front, back, split, -⟩ := List.lookup_eq_some_iff.mp found
  exact all (small, form) (by rw [split]; simp)

section
variable {name other : String}

theorem sameButLast_words (same : SameButLast (wordsAsWritten name.toList) (wordsAsWritten other.toList)) :
    SameButLast (words name) (words other) :=
  same.map _

theorem not_sameButLast_of_oneMore (more : OneMore (wordsAsWritten name.toList) (wordsAsWritten other.toList)) :
    ¬ SameButLast (words name) (words other) := by
  intro same
  have lengths := same.length_eq
  rw [words, words, List.length_map, List.length_map, more] at lengths
  omega

theorem sameButLast_of_length_one {α : Type} {list others : List α} (single : list.length = 1)
    (otherSingle : others.length = 1) : SameButLast list others := by
  obtain ⟨last, rfl⟩ := List.length_eq_one_iff.mp single
  obtain ⟨otherLast, rfl⟩ := List.length_eq_one_iff.mp otherSingle
  exact ⟨[], last, otherLast, rfl, rfl⟩

theorem sameButLast_self {α : Type} {list : List α} (some : list ≠ []) : SameButLast list list := by
  obtain ⟨front, last, rfl⟩ := (List.eq_nil_or_concat' list).resolve_left some
  exact ⟨front, last, last, rfl, rfl⟩

theorem PluralizesLast.sameButLast (pluralizes : PluralizesLast name) (worded : words name ≠ []) :
    SameButLast (words name) (words (plural name)) := by
  cases pluralizes with
  | irregular found single =>
    have named : name ≠ "" := by
      rintro rfl
      exact worded rfl
    refine sameButLast_of_length_one single (length_words_of_irregular found _ ?_)
    simp only [plural, named, ↓reduceIte, found]
    split <;> simp
  | unchanged same =>
    rw [same]
    exact sameButLast_self worded
  | ending listed added goes =>
    rw [added]
    apply sameButLast_words
    rw [String.toList_append]
    exact sameButLast_append_small (isSmall_of_mem_endings listed) goes
  | smallY spelled replaced =>
    rw [replaced, spelled]
    apply sameButLast_words
    rw [String.toList_append, String.toList_append]
    exact sameButLast_of_small isSmall_y isSmall_ies _
  | capitalY spelled replaced agree =>
    rw [replaced, spelled]
    apply sameButLast_words
    rw [String.toList_append, String.toList_append]
    exact sameButLast_of_capital isSmall_ies rfl agree

theorem sameButLast_words_plural_iff (worded : words name ≠ []) :
    SameButLast (words name) (words (plural name)) ↔ PluralizesLast name := by
  refine ⟨fun same => ?_, fun pluralizes => pluralizes.sameButLast worded⟩
  have named : name ≠ "" := by
    rintro rfl
    exact worded rfl
  rcases plural_cases named with ⟨form, found, written⟩ | ⟨unchanged, -⟩ | ⟨letters, listed, added⟩ |
    ⟨stem, spelled, replaced⟩
  · exact .irregular found (same.length_eq.trans (length_words_of_irregular found _ written))
  · exact .unchanged unchanged
  · cases goes : goesOn name.toList with
    | true => exact .ending listed added goes
    | false =>
      have more := oneMore_append_small (isSmall_of_mem_endings listed) goes
      rw [← String.toList_append, ← added] at more
      exact absurd same (not_sameButLast_of_oneMore more)
  · rcases spelled with spelled | spelled
    · exact .smallY spelled replaced
    · by_cases agree : goesOn stem.toList = endsCapital stem.toList
      · exact .capitalY spelled replaced agree
      · have capital : 'Y'.isUpper = true := rfl
        have differ := oneMore_of_capital isSmall_ies capital agree
        have letter : "Y".toList = ['Y'] := rfl
        rw [← letter, ← String.toList_append, ← String.toList_append, ← spelled, ← replaced] at differ
        rcases differ with more | less
        · exact absurd same (not_sameButLast_of_oneMore more)
        · have lengths := same.length_eq
          rw [words, words, List.length_map, List.length_map, less] at lengths
          omega

-- A hyphenated text has its words between the hyphens.
theorem kebabCase_eq_iff {pieces : List String} (some : pieces ≠ [])
    (proper : ∀ piece ∈ pieces, piece ≠ "" ∧ Lacks '-' piece) :
    kebabCase name = String.intercalate "-" pieces ↔ words name = pieces := by
  refine ⟨fun same => ?_, fun same => by rw [kebabCase, same]⟩
  have hyphen : '-'.isAlphanum = false := rfl
  have apart : ∀ word ∈ words name, Lacks '-' word := fun _ member => lacks_of_mem_words hyphen member
  have otherApart : ∀ piece ∈ pieces, Lacks '-' piece := fun piece member => (proper piece member).2
  rw [kebabCase] at same
  cases listed : words name with
  | nil =>
    -- Nothing is written as one empty word would be.
    rw [listed] at same
    have empty : [""] = pieces := intercalate_inj "-" '-' rfl (by decide) otherApart (by decide) some same
    exact absurd rfl (proper "" (empty ▸ List.mem_cons_self)).1
  | cons first rest =>
    rw [listed] at same apart
    exact intercalate_inj "-" '-' rfl apart otherApart (List.cons_ne_nil first rest) some same

end

end PrismaNest.Naming

namespace PrismaNest

open Text Naming

/-- The route of a model has the words of its name, with another last word, exactly for the names
whose plural does. -/
theorem Model.route_words_iff {model : Model} (worded : words model.name ≠ []) :
    (∃ last, last ≠ "" ∧ Lacks '-' last ∧
      model.route = String.intercalate "-" ((words model.name).dropLast ++ [last])) ↔
      PluralizesLast model.name := by
  have hyphen : '-'.isAlphanum = false := rfl
  rw [← sameButLast_words_plural_iff worded]
  constructor
  · rintro ⟨last, some, apart, routed⟩
    obtain ⟨front, first, split⟩ := (List.eq_nil_or_concat' (words model.name)).resolve_left worded
    rw [split, List.dropLast_concat] at routed
    have proper : ∀ word ∈ front ++ [last], word ≠ "" ∧ Lacks '-' word := by
      intro word member
      rcases List.mem_append.mp member with inFront | isLast
      · have named : word ∈ words model.name := by
          rw [split]
          exact List.mem_append_left _ inFront
        exact ⟨ne_empty_of_mem_words named, lacks_of_mem_words hyphen named⟩
      · rw [List.mem_singleton.mp isLast]
        exact ⟨some, apart⟩
    exact ⟨front, first, last, split, (kebabCase_eq_iff (by simp) proper).mp routed⟩
  · rintro ⟨front, first, last, split, plurals⟩
    have member : last ∈ words (plural model.name) := by simp [plurals]
    refine ⟨last, ne_empty_of_mem_words member, lacks_of_mem_words hyphen member, ?_⟩
    rw [split, List.dropLast_concat, route, kebabCase, plurals]

/-- A single capital is a word that small letters go on with. -/
theorem Model.route_words_iff_singleCapital :
    let model : Model := ⟨"PlanB", []⟩
    words model.name = ["plan", "b"] ∧ ∃ last, last ≠ "" ∧ Lacks '-' last ∧
      model.route = String.intercalate "-" ((words model.name).dropLast ++ [last]) := by
  intro model
  have worded : words model.name = ["plan", "b"] := by decide +kernel
  have some : words model.name ≠ [] := by
    rw [worded]
    exact List.cons_ne_nil _ _
  have added : plural model.name = model.name ++ "s" := by decide +kernel
  exact ⟨worded, (route_words_iff some).mpr (.ending (by decide) added (by decide))⟩

/-- Small letters after a run of capitals take its last capital with them. -/
theorem Model.route_splits_acronym :
    let model : Model := ⟨"UserAPI", []⟩
    words model.name = ["user", "api"] ∧ model.route = "user-ap-is" ∧
      ¬ ∃ last, last ≠ "" ∧ Lacks '-' last ∧
        model.route = String.intercalate "-" ((words model.name).dropLast ++ [last]) := by
  intro model
  have worded : words model.name = ["user", "api"] := by decide +kernel
  have plurals : words (plural model.name) = ["user", "ap", "is"] := by decide +kernel
  refine ⟨worded, by decide +kernel, ?_⟩
  rintro ⟨last, some, apart, routed⟩
  rw [worded, route] at routed
  have proper : ∀ piece ∈ ["user", last], piece ≠ "" ∧ Lacks '-' piece := by
    rw [List.forall_mem_cons, List.forall_mem_singleton]
    exact ⟨by decide, some, apart⟩
  have two := (kebabCase_eq_iff (List.cons_ne_nil _ _) proper).mp routed
  rw [plurals] at two
  cases two

end PrismaNest
