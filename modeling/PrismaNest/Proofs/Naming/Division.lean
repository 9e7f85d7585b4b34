import PrismaNest.Proofs.Naming.Seams
import PrismaNest.Proofs.Naming.Words

/-! The words of a name as a division of it.

The words of a name hold its letters and digits, in their order, and nothing else, and no word mixes
letters with digits. Where a word ends, a name can be cut: what stands on both sides is divided for
itself. A separator is such a place, whatever stands around it.
-/

set_option autoImplicit false

namespace PrismaNest.Naming

/-- Digits, at least one. -/
structure IsNumber (text : List Char) : Prop where
  some : text ≠ []
  digits : ∀ c ∈ text, c.isDigit = true

/-! ### What the words hold -/

theorem flatten_joinFirst (c : Char) (words : List (List Char)) :
    (joinFirst c words).flatten = c :: words.flatten := by
  cases words <;> rfl

-- No letter and no digit is lost, and each keeps its place.
theorem flatten_wordsAsWritten (text : List Char) :
    (wordsAsWritten text).flatten = text.filter Char.isAlphanum := by
  fun_induction wordsAsWritten text with
  | case1 => rfl
  | case2 c alphanumeric d after joins ih =>
    rw [flatten_joinFirst, ih, List.filter_cons_of_pos alphanumeric]
  | case3 c alphanumeric d after starts ih =>
    rw [List.flatten_cons, ih, List.filter_cons_of_pos alphanumeric]
    rfl
  | case4 c alphanumeric => simp [alphanumeric]
  | case5 c rest other ih => rw [ih, List.filter_cons_of_neg other]

theorem wordsAsWritten_eq_nil_iff {text : List Char} :
    wordsAsWritten text = [] ↔ ∀ c ∈ text, c.isAlphanum = false := by
  constructor
  · intro none c member
    have kept := flatten_wordsAsWritten text
    rw [none] at kept
    simpa using List.filter_eq_nil_iff.mp kept.symm c member
  · intro other
    have kept : text.filter Char.isAlphanum = [] := List.filter_eq_nil_iff.mpr (by simpa using other)
    rw [← flatten_wordsAsWritten, List.flatten_eq_nil_iff] at kept
    refine List.eq_nil_iff_forall_not_mem.mpr fun word member => ?_
    exact ne_nil_of_mem_wordsAsWritten member (kept word member)

theorem isDigit_eq_of_not_startsWord {c d : Char} {next : Option Char}
    (joins : startsWord c d next = false) : c.isDigit = d.isDigit := by
  unfold startsWord at joins
  split at joins
  · rename_i digit
    rw [digit]
    simpa using joins
  · rename_i letter
    split at joins
    · cases joins
    · rename_i otherLetter
      rw [Bool.not_eq_true] at letter otherLetter
      rw [letter, otherLetter]

-- The first word starts where the text does.
theorem exists_first_word {c : Char} (alphanumeric : c.isAlphanum = true) (text : List Char) :
    ∃ word words, wordsAsWritten (c :: text) = (c :: word) :: words := by
  cases text with
  | nil => exact ⟨[], [], wordsAsWritten_single alphanumeric⟩
  | cons d text =>
    rw [wordsAsWritten_cons_cons alphanumeric]
    split
    · cases wordsAsWritten (d :: text) with
      | nil => exact ⟨[], [], rfl⟩
      | cons word words => exact ⟨word, words, rfl⟩
    · exact ⟨[], _, rfl⟩

theorem isDigit_eq_of_mem_wordsAsWritten {text word : List Char} (member : word ∈ wordsAsWritten text) :
    ∀ c ∈ word, ∀ d ∈ word, c.isDigit = d.isDigit := by
  fun_induction wordsAsWritten text generalizing word with
  | case1 => cases member
  | case2 c alphanumeric d after joins ih =>
    rw [Bool.and_eq_true, Bool.not_eq_true'] at joins
    obtain ⟨first, words, split⟩ := exists_first_word joins.1 after
    rw [split] at ih member
    rcases List.mem_cons.mp member with rfl | later
    · -- What joins a word in front is of the kind of its first character.
      have kind : ∀ e ∈ c :: d :: first, e.isDigit = d.isDigit := by
        rw [List.forall_mem_cons]
        exact ⟨isDigit_eq_of_not_startsWord joins.2,
          fun e inside => ih List.mem_cons_self e inside d List.mem_cons_self⟩
      exact fun e inside f otherInside => (kind e inside).trans (kind f otherInside).symm
    · exact ih (List.mem_cons_of_mem _ later)
  | case3 c alphanumeric d after starts ih =>
    rcases List.mem_cons.mp member with rfl | later
    · simp
    · exact ih later
  | case4 c alphanumeric =>
    rw [List.mem_singleton.mp member]
    simp
  | case5 c rest other ih => exact ih member

theorem isLower_of_isAlphanum {c : Char} (alphanumeric : c.isAlphanum = true) (noDigit : c.isDigit = false)
    (noCapital : c.isUpper = false) : c.isLower = true := by
  simpa [Char.isAlphanum, isAlpha_eq, noDigit, noCapital] using alphanumeric

theorem isSmall_or_isNumber_of_mem_words {name word : String} (member : word ∈ words name) :
    IsSmall word.toList ∨ IsNumber word.toList := by
  obtain ⟨written, writtenMember, rfl⟩ := List.mem_map.mp member
  have alphanumeric := isAlphanum_of_mem_wordsAsWritten writtenMember
  have kind := isDigit_eq_of_mem_wordsAsWritten writtenMember
  obtain ⟨first, rest, rfl⟩ := List.exists_cons_of_ne_nil (ne_nil_of_mem_wordsAsWritten writtenMember)
  have same : ∀ c ∈ first :: rest, c.toLower.isDigit = first.isDigit := fun c inside =>
    (toLower_of_isAlphanum (alphanumeric c inside)).2.2.trans (kind c inside first List.mem_cons_self)
  rw [String.toList_ofList]
  cases figure : first.isDigit with
  | true =>
    refine .inr ⟨List.cons_ne_nil _ _, List.forall_mem_map.mpr fun c inside => ?_⟩
    rw [same c inside, figure]
  | false =>
    refine .inl ⟨List.cons_ne_nil _ _, List.forall_mem_map.mpr fun c inside => ?_⟩
    obtain ⟨lowered, noCapital, -⟩ := toLower_of_isAlphanum (alphanumeric c inside)
    exact isLower_of_isAlphanum lowered ((same c inside).trans figure) noCapital

/-! ### Where a name can be cut -/

/-- Whether the word that a character belongs to ends with it, in front of a rest. -/
def endsWord (c : Char) (rest : List Char) : Bool :=
  match rest with
  | [] => true
  | d :: after => !(c.isAlphanum && d.isAlphanum) || startsWord c d after.head?

/-- The same words, and more behind them. -/
theorem extends_append (more : List (List Char)) : Extends fun words others => words = others ++ more where
  apart := by
    rintro word _ others rfl
    rfl
  joined := by
    rintro c _ others - otherSome rfl
    cases others with
    | nil => exact absurd rfl otherSome
    | cons first others => rfl

-- A small letter goes on with the word of a letter, so no word ends between a capital and it.
theorem head?_not_isLower_of_endsWord {c : Char} {rest : List Char} (capital : c.isUpper = true)
    (ends : endsWord c rest = true) : rest.head?.any Char.isLower = false := by
  cases rest with
  | nil => rfl
  | cons d after =>
    cases small : d.isLower with
    | false => simpa using small
    | true =>
      have letter : c.isAlpha = true := by simp [isAlpha_eq, capital]
      simp [endsWord, startsWord_small small, not_isDigit_of_isAlpha letter, Char.isAlphanum, isAlpha_eq,
        capital, small] at ends

theorem wordsAsWritten_cut {c : Char} {rest : List Char} (ends : endsWord c rest = true) (front : List Char) :
    wordsAsWritten (front ++ c :: rest) = wordsAsWritten (front ++ [c]) ++ wordsAsWritten rest := by
  apply (extends_append _).append
  · intro before _
    cases capital : c.isUpper with
    | false => exact startsWord_congr (by simp [capital])
    | true =>
      rw [startsWord_capital capital, startsWord_capital capital, head?_not_isLower_of_endsWord capital ends]
      rfl
  · cases alphanumeric : c.isAlphanum with
    | false =>
      rw [wordsAsWritten_other alphanumeric, wordsAsWritten_other alphanumeric]
      rfl
    | true =>
      cases rest with
      | nil => simp [wordsAsWritten]
      | cons d after =>
        have apart : (d.isAlphanum && !startsWord c d after.head?) = false := by
          rw [endsWord, alphanumeric, Bool.true_and, Bool.or_eq_true, Bool.not_eq_true'] at ends
          rcases ends with other | starts
          · rw [other, Bool.false_and]
          · rw [starts, Bool.not_true, Bool.and_false]
        rw [wordsAsWritten_cons_cons alphanumeric, wordsAsWritten_single alphanumeric, apart]
        rfl

theorem wordsAsWritten_append_other {c : Char} (other : c.isAlphanum = false) (text rest : List Char) :
    wordsAsWritten (text ++ c :: rest) = wordsAsWritten text ++ wordsAsWritten rest := by
  rcases List.eq_nil_or_concat' text with rfl | ⟨front, last, rfl⟩
  · exact wordsAsWritten_other other rest
  · have ends : endsWord last (c :: rest) = true := by simp [endsWord, other]
    rw [List.append_assoc, List.singleton_append, wordsAsWritten_cut ends, wordsAsWritten_other other]

-- A separator, however long, ends the word in front of it and belongs to none.
theorem wordsAsWritten_append_separator {separator : List Char} (some : separator ≠ [])
    (other : ∀ c ∈ separator, c.isAlphanum = false) (text rest : List Char) :
    wordsAsWritten (text ++ separator ++ rest) = wordsAsWritten text ++ wordsAsWritten rest := by
  induction separator generalizing text with
  | nil => exact absurd rfl some
  | cons c separator ih =>
    obtain ⟨first, others⟩ := List.forall_mem_cons.mp other
    rw [List.append_assoc, List.cons_append, wordsAsWritten_append_other first]
    cases separator with
    | nil => rfl
    | cons d separator =>
      have further := ih (List.cons_ne_nil _ _) others []
      rw [List.nil_append] at further
      rw [further]
      rfl

end PrismaNest.Naming
