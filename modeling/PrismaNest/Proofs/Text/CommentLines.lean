import PrismaNest.Proofs.Text.Pieces
import PrismaNest.Proofs.Text.Runs
import PrismaNest.Schema.Block

/-! Texts without their comment lines.

The scan for blocks goes over characters, so comment lines are also dropped character by
character: a line feed goes with the comment line after it. What is left has the lines of
the text that are no comments, and the first line in any case, since only the text before
it can tell whether it is one.
-/

set_option autoImplicit false

namespace PrismaNest

open Text

/-- Whether the first line of a text is a comment line. -/
def opensComment : List Char → Bool
  | [] => false
  | c :: rest =>
    if c = '\n' then false else if isBlank c then opensComment rest else isCommentLine (c :: rest)

/-- A text without its comment lines, given whether it starts within one. -/
def dropComments (inComment : Bool) : List Char → List Char
  | [] => []
  | c :: rest =>
    if c = '\n' then
      if opensComment rest then dropComments true rest else '\n' :: dropComments false rest
    else if inComment then dropComments true rest
    else c :: dropComments false rest

/-- Whether a stretch ends within a comment line, given whether it starts within one. -/
def inCommentAfter (inComment : Bool) : List Char → Bool
  | [] => inComment
  | c :: rest => inCommentAfter (if c = '\n' then opensComment rest else inComment) rest

/-- The lines of a text that are no comments, as one text. -/
def withoutCommentLines (text : List Char) : List Char :=
  ['\n'].intercalate ((lines text).filter fun line => !isCommentLine (trim line))

-- Blanks at the end of a line do not decide whether it is a comment.
theorem isCommentLine_trim (line : List Char) :
    isCommentLine (trim line) = isCommentLine (line.dropWhile isBlank) := by
  rw [Bool.eq_iff_iff, isCommentLine, isCommentLine, List.isPrefixOf_iff_prefix,
    List.isPrefixOf_iff_prefix, trim, trimBy]
  generalize line.dropWhile isBlank = ink
  constructor
  · intro marked
    apply marked.trans
    rw [← List.reverse_suffix, List.reverse_reverse]
    exact List.dropWhile_suffix _
  · rintro ⟨rest, rfl⟩
    rw [List.reverse_append, List.dropWhile_append]
    split
    · exact ⟨[], rfl⟩
    · rw [List.reverse_append]
      exact List.prefix_append _ _

theorem opensComment_eq {line : List Char} (unbroken : '\n' ∉ line) :
    opensComment line = isCommentLine (trim line) := by
  rw [isCommentLine_trim]
  induction line with
  | nil => rfl
  | cons c line ih =>
    have first : c ≠ '\n' := fun same => unbroken (by simp [same])
    rw [opensComment, if_neg first]
    cases blank : isBlank c with
    | true =>
      rw [if_pos rfl, List.dropWhile_cons_of_pos blank]
      exact ih fun member => unbroken (List.mem_cons_of_mem c member)
    | false =>
      rw [if_neg Bool.false_ne_true, List.dropWhile_cons_of_neg (by simp [blank])]

-- A line feed, or ink other than a slash, ends what decides on the line.
theorem opensComment_append {c : Char} (decides : c = '\n' ∨ isBlank c = false) (plain : c ≠ '/')
    (stretch rest : List Char) : opensComment (stretch ++ c :: rest) = opensComment stretch := by
  induction stretch with
  | nil =>
    rcases decides with rfl | ink
    · rfl
    · simp [opensComment, ink, isCommentLine, List.isPrefixOf, plain.symm]
  | cons d stretch ih =>
    rw [List.cons_append, opensComment, opensComment, ih]
    have marker : isCommentLine (d :: (stretch ++ c :: rest)) = isCommentLine (d :: stretch) := by
      cases stretch with
      | nil => simp [isCommentLine, List.isPrefixOf, plain.symm]
      | cons e stretch => simp [isCommentLine, List.isPrefixOf]
    rw [marker]

theorem opensComment_eq_false {text : List Char} (absent : '/' ∉ text) :
    opensComment text = false := by
  induction text with
  | nil => rfl
  | cons c text ih =>
    rw [List.mem_cons, not_or] at absent
    rw [opensComment, ih absent.2]
    simp [isCommentLine, List.isPrefixOf, absent.1]

section
variable {c : Char} {rest : List Char}

-- A line feed goes with the comment line after it.
theorem dropComments_break (inComment : Bool) (rest : List Char) :
    dropComments inComment ('\n' :: rest) =
      if opensComment rest then dropComments true rest else '\n' :: dropComments false rest := by
  rw [dropComments, if_pos rfl]

theorem dropComments_true_cons (inLine : c ≠ '\n') :
    dropComments true (c :: rest) = dropComments true rest := by
  rw [dropComments, if_neg inLine, if_pos rfl]

theorem dropComments_false_cons (inLine : c ≠ '\n') :
    dropComments false (c :: rest) = c :: dropComments false rest := by
  rw [dropComments, if_neg inLine, if_neg Bool.false_ne_true]

end

theorem dropComments_sublist (inComment : Bool) (text : List Char) :
    (dropComments inComment text).Sublist text := by
  fun_induction dropComments inComment text with
  | case1 => exact .slnil
  | case2 _ rest _ ih => exact .cons _ ih
  | case3 _ rest _ ih => exact .cons_cons _ ih
  | case4 c rest _ ih => exact .cons _ ih
  | case5 _ c rest _ _ ih => exact .cons_cons _ ih

-- Within a comment line nothing is kept before the line feed that ends it.
theorem startsOutside_dropComments (text : List Char) :
    StartsOutside (· ≠ '\n') (dropComments true text) := by
  induction text with
  | nil => exact fun c first => nomatch first
  | cons c text ih =>
    by_cases feed : c = '\n'
    · subst feed
      rw [dropComments_break]
      split
      · exact ih
      · rintro c ⟨⟩
        rfl
    · rw [dropComments_true_cons feed]
      exact ih

-- Characters of one line that are kept stand together in the text.
theorem eq_append_of_dropComments {stretch text more : List Char} (unbroken : '\n' ∉ stretch)
    (same : dropComments false text = stretch ++ more) :
    ∃ rest, text = stretch ++ rest ∧ dropComments false rest = more := by
  induction stretch generalizing text with
  | nil => exact ⟨text, rfl, same⟩
  | cons s stretch ih =>
    rw [List.mem_cons, not_or] at unbroken
    cases text with
    | nil => simp [dropComments] at same
    | cons c text =>
      by_cases feed : c = '\n'
      · subst feed
        rw [dropComments_break] at same
        split at same
        · have first := startsOutside_dropComments text s (by simp [same])
          simp [Ne.symm unbroken.1] at first
        · exact absurd (List.cons.inj same).1 unbroken.1
      · rw [dropComments_false_cons feed] at same
        obtain ⟨rfl, kept⟩ := List.cons.inj same
        obtain ⟨rest, rfl, dropped⟩ := ih unbroken.2 kept
        exact ⟨rest, rfl, dropped⟩

-- Comment lines are dropped on both sides of a character that decides no line.
theorem dropComments_append {c : Char} (decides : c = '\n' ∨ isBlank c = false) (plain : c ≠ '/')
    (inComment : Bool) (stretch rest : List Char) :
    dropComments inComment (stretch ++ c :: rest) =
      dropComments inComment stretch ++
        dropComments (inCommentAfter inComment stretch) (c :: rest) := by
  induction stretch generalizing inComment with
  | nil => rfl
  | cons d stretch ih =>
    rw [List.cons_append, inCommentAfter]
    by_cases feed : d = '\n'
    · subst feed
      rw [dropComments_break, dropComments_break, opensComment_append decides plain, if_pos rfl]
      cases opensComment stretch with
      | true => exact ih true
      | false => exact congrArg (List.cons '\n') (ih false)
    · rw [if_neg feed]
      cases inComment with
      | true => rw [dropComments_true_cons feed, dropComments_true_cons feed, ih]
      | false => rw [dropComments_false_cons feed, dropComments_false_cons feed, ih, List.cons_append]

-- Where no slash stands, no comment line begins.
theorem dropComments_eq_self {stretch : List Char} (absent : '/' ∉ stretch) :
    dropComments false stretch = stretch ∧ inCommentAfter false stretch = false := by
  induction stretch with
  | nil => exact ⟨rfl, rfl⟩
  | cons c stretch ih =>
    rw [List.mem_cons, not_or] at absent
    obtain ⟨kept, outside⟩ := ih absent.2
    have line := opensComment_eq_false absent.2
    rw [inCommentAfter, line, ite_self]
    refine ⟨?_, outside⟩
    by_cases feed : c = '\n'
    · subst feed
      rw [dropComments_break, line, if_neg Bool.false_ne_true, kept]
    · rw [dropComments_false_cons feed, kept]

theorem opensComment_eq_first {text first : List Char} {others : List (List Char)}
    (split : lines text = first :: others) :
    opensComment text = isCommentLine (trim first) := by
  obtain ⟨unbroken, ⟨rfl, -⟩ | ⟨more, rfl, -⟩⟩ := eq_of_lines_eq_cons split
  · exact opensComment_eq unbroken
  · rw [opensComment_append (.inl rfl) (by decide), opensComment_eq unbroken]

-- The lines that are left: what there is of the first one, and the others that are no
-- comments.
theorem lines_dropComments {text first : List Char} {others : List (List Char)}
    (split : lines text = first :: others) (inComment : Bool) :
    lines (dropComments inComment text) = (if inComment then [] else first) ::
      others.filter fun line => !isCommentLine (trim line) := by
  induction text generalizing first others inComment with
  | nil =>
    cases split
    cases inComment <;> rfl
  | cons c text ih =>
    obtain ⟨head, tail, splitText⟩ := List.exists_cons_of_ne_nil (lines_ne_nil text)
    have left := ih splitText
    by_cases feed : c = '\n'
    · subst feed
      rw [lines_break, splitText] at split
      cases split
      have comment := opensComment_eq_first splitText
      rw [dropComments_break, List.filter_cons, ← comment, ite_self]
      cases opens : opensComment text with
      | true => simpa using left true
      | false => simpa [lines_break] using left false
    · rw [lines_cons feed, splitText] at split
      cases split
      cases inComment with
      | true => rw [dropComments_true_cons feed, left]; rfl
      | false => rw [dropComments_false_cons feed, lines_cons feed, left]; rfl

-- Leaving out lines and dropping comments line by line differ by a line feed at most, where
-- the text starts with a comment line.
theorem dropComments_eq_withoutCommentLines (text : List Char) :
    dropComments (opensComment text) text = withoutCommentLines text ∨
      dropComments (opensComment text) text = '\n' :: withoutCommentLines text := by
  obtain ⟨first, others, split⟩ := List.exists_cons_of_ne_nil (lines_ne_nil text)
  have left := lines_dropComments split (opensComment text)
  have whole := intercalate_lines (dropComments (opensComment text) text)
  rw [left] at whole
  rw [← whole, withoutCommentLines, split, List.filter_cons, ← opensComment_eq_first split]
  cases opensComment text with
  | false => exact .inl rfl
  | true =>
    generalize others.filter _ = rest
    cases rest with
    | nil => exact .inl rfl
    | cons line rest => exact .inr rfl

end PrismaNest
