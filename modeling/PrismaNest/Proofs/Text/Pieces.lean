import PrismaNest.Proofs.Text.Absence
import PrismaNest.Text.Blank
import PrismaNest.Text.Lines

/-! Pieces of a text between separators: tokens between blanks, and lines. -/

set_option autoImplicit false

namespace PrismaNest.Text

theorem not_of_mem_splitOnP {α : Type} {p : α → Bool} {text piece : List α}
    (member : piece ∈ text.splitOnP p) : ∀ c ∈ piece, p c = false := by
  induction text generalizing piece with
  | nil =>
    rw [List.splitOnP_nil, List.mem_singleton] at member
    simp [member]
  | cons first text ih =>
    rw [List.splitOnP_cons_eq_if_modifyHead] at member
    cases separates : p first with
    | true =>
      simp only [separates, ↓reduceIte, List.mem_cons] at member
      rcases member with rfl | member
      · simp
      · exact ih member
    | false =>
      obtain ⟨head, tail, pieces⟩ := List.exists_cons_of_ne_nil (List.splitOnP_ne_nil p text)
      simp only [separates, Bool.false_eq_true, ↓reduceIte, pieces, List.modifyHead_cons,
        List.mem_cons] at member
      rcases member with rfl | member
      · rintro c (_ | ⟨_, inside⟩)
        · exact separates
        · exact ih (by simp [pieces]) c inside
      · exact ih (by simp [pieces, member])

theorem sublist_of_mem_splitOnP {α : Type} {p : α → Bool} {text piece : List α}
    (member : piece ∈ text.splitOnP p) : piece.Sublist text := by
  induction text generalizing piece with
  | nil =>
    rw [List.splitOnP_nil, List.mem_singleton] at member
    rw [member]
  | cons first text ih =>
    rw [List.splitOnP_cons_eq_if_modifyHead] at member
    split at member
    · rcases List.mem_cons.mp member with rfl | member
      · exact List.nil_sublist _
      · exact (ih member).cons first
    · obtain ⟨head, tail, pieces⟩ := List.exists_cons_of_ne_nil (List.splitOnP_ne_nil p text)
      rw [pieces, List.modifyHead_cons, List.mem_cons] at member
      rcases member with rfl | member
      · exact (ih (by simp [pieces])).cons_cons first
      · exact (ih (by simp [pieces, member])).cons first

-- A text of pieces without the sign between them is divided at that sign into the pieces.
theorem splitOn_intercalate (separator : String) (sign : Char) (single : separator.toList = [sign])
    {pieces : List String} (apart : ∀ piece ∈ pieces, Lacks sign piece) (inside : pieces ≠ []) :
    (String.intercalate separator pieces).toList.splitOn sign = pieces.map String.toList := by
  rw [String.toList_intercalate, single]
  refine List.splitOn_intercalate sign ?_ (by simpa using inside)
  intro piece member
  obtain ⟨text, textMember, rfl⟩ := List.mem_map.mp member
  exact apart text textMember

theorem intercalate_inj (separator : String) (sign : Char) (single : separator.toList = [sign])
    {pieces others : List String} (apart : ∀ piece ∈ pieces, Lacks sign piece)
    (otherApart : ∀ piece ∈ others, Lacks sign piece) (inside : pieces ≠ []) (otherInside : others ≠ [])
    (same : String.intercalate separator pieces = String.intercalate separator others) :
    pieces = others := by
  have split := splitOn_intercalate separator sign single apart inside
  rw [same, splitOn_intercalate separator sign single otherApart otherInside] at split
  exact (List.map_injective_iff.mpr (fun _ _ => String.toList_inj.mp) split).symm

-- A blank ends a token and belongs to none.
theorem tokens_append_cons {blank : Char} (isBlank_blank : isBlank blank = true)
    (text rest : List Char) : tokens (text ++ blank :: rest) = tokens text ++ tokens rest := by
  rw [tokens, List.splitOnP_append_cons _ _ isBlank_blank, List.filter_append]
  rfl

theorem tokens_trim (text : List Char) : tokens (trim text) = tokens text := by
  have front (text : List Char) : tokens (text.dropWhile isBlank) = tokens text := by
    induction text with
    | nil => rfl
    | cons c text ih =>
      cases blank : isBlank c with
      | true =>
        rw [List.dropWhile_cons_of_pos blank, ih]
        exact (tokens_append_cons blank [] text).symm
      | false => rw [List.dropWhile_cons_of_neg (by simp [blank])]
  have back (turned : List Char) : tokens (turned.dropWhile isBlank).reverse = tokens turned.reverse := by
    induction turned with
    | nil => rfl
    | cons c turned ih =>
      cases blank : isBlank c with
      | true =>
        rw [List.dropWhile_cons_of_pos blank, ih, List.reverse_cons, tokens_append_cons blank,
          tokens_nil, List.append_nil]
      | false => rw [List.dropWhile_cons_of_neg (by simp [blank])]
  rw [trim, trimBy, back, List.reverse_reverse, front]

theorem not_isBlank_of_mem_tokens {text token : List Char} (member : token ∈ tokens text) :
    ∀ c ∈ token, isBlank c = false :=
  not_of_mem_splitOnP (List.mem_filter.mp member).1

theorem lines_break (text : List Char) : lines ('\n' :: text) = [] :: lines text := by
  rw [lines, List.splitOnP_cons_eq_if_modifyHead]
  rfl

theorem lines_cons {c : Char} (inLine : c ≠ '\n') (text : List Char) :
    lines (c :: text) = (lines text).modifyHead (c :: ·) := by
  rw [lines, List.splitOnP_cons_eq_if_modifyHead, decide_eq_false inLine]
  rfl

theorem lines_ne_nil (text : List Char) : lines text ≠ [] :=
  List.splitOnP_ne_nil _ text

theorem lines_append_break {line : List Char} (unbroken : '\n' ∉ line) (text : List Char) :
    lines (line ++ '\n' :: text) = line :: lines text := by
  have whole : line.splitOnP (· = '\n') = [line] := by
    refine List.splitOnP_eq_singleton fun c member => ?_
    rw [decide_eq_false_iff_not]
    rintro rfl
    exact unbroken member
  rw [lines, List.splitOnP_append_cons _ _ (by decide), whole]
  rfl

-- The first line reaches to the first line feed.
theorem eq_of_lines_eq_cons {text first : List Char} {others : List (List Char)}
    (split : lines text = first :: others) :
    '\n' ∉ first ∧ (text = first ∧ others = [] ∨
      ∃ more, text = first ++ '\n' :: more ∧ others = lines more) := by
  induction text generalizing first with
  | nil =>
    cases split
    exact ⟨List.not_mem_nil, .inl ⟨rfl, rfl⟩⟩
  | cons c text ih =>
    by_cases feed : c = '\n'
    · subst feed
      rw [lines_break] at split
      cases split
      exact ⟨List.not_mem_nil, .inr ⟨text, rfl, rfl⟩⟩
    · obtain ⟨head, tail, splitText⟩ := List.exists_cons_of_ne_nil (lines_ne_nil text)
      rw [lines_cons feed, splitText] at split
      cases split
      obtain ⟨unbroken, rest⟩ := ih splitText
      refine ⟨fun member => ?_, ?_⟩
      · exact (List.mem_cons.mp member).elim (fun same => feed same.symm) unbroken
      · rcases rest with ⟨rfl, last⟩ | ⟨more, rfl, follow⟩
        · exact .inl ⟨rfl, last⟩
        · exact .inr ⟨more, rfl, follow⟩

theorem lines_eq_splitOn (text : List Char) : lines text = text.splitOn '\n' := by
  rw [lines, List.splitOn_eq_splitOnP]
  congr 1

theorem intercalate_lines (text : List Char) : ['\n'].intercalate (lines text) = text := by
  rw [lines_eq_splitOn]
  exact List.intercalate_splitOn '\n'

end PrismaNest.Text
