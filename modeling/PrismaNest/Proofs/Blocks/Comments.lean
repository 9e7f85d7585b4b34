import PrismaNest.Proofs.Blocks.Scan
import PrismaNest.Proofs.Text.CommentLines

/-! Blocks in a text without its comment lines.

The scan does not know comment lines: it takes a block whose keyword stands in one, ends a
block at a brace in one, and finds no header that one interrupts. Comments that stay apart
from the blocks in these three ways can be dropped from the text. The scan then takes the
same blocks, and their bodies have lost their comment lines.
-/

set_option autoImplicit false

namespace PrismaNest.Block

open Text

/-- No header comes about when comment lines are dropped behind a keyword. -/
def HeaderWhole (keyword text : List Char) : Prop :=
  ∀ after, text = keyword ++ after → header? after = none → header? (dropComments false after) = none

/-- Comment lines stay apart from the blocks that the scan takes, given whether a word
character stands right before the text and whether the text starts within a comment line. -/
inductive CommentsApart (keyword : List Char) : Bool → Bool → List Char → Prop where
  | nil {insideWord inComment : Bool} : CommentsApart keyword insideWord inComment []
  /-- No block is taken here, and none would be without comment lines. -/
  | pass {insideWord inComment : Bool} {c : Char} {text : List Char} :
      Passes keyword insideWord (c :: text) →
      (insideWord = false → inComment = false → HeaderWhole keyword (c :: text)) →
      CommentsApart keyword (isWordChar c) (if c = '\n' then opensComment text else inComment) text →
      CommentsApart keyword insideWord inComment (c :: text)
  /-- A block begins and ends outside of comment lines. -/
  | take {block : Block} {text rest : List Char} :
      read? keyword text = some (block, rest) →
      inCommentAfter false block.body = false →
      CommentsApart keyword false false rest →
      CommentsApart keyword false false text

/-- A block without the comment lines of its body. -/
def withoutComments (block : Block) : Block :=
  { block with body := dropComments false block.body }

theorem Header.slash_not_mem_front (header : Header) : '/' ∉ header.front := by
  intro member
  simp only [Header.front, List.mem_append] at member
  obtain (member | member) | member := member
  · exact absurd (header.gap_blank _ member) (by decide)
  · exact absurd (header.name_word _ member) (by decide)
  · exact absurd (header.space_blank _ member) (by decide)

-- Only the closing brace can be missing after a header.
theorem close_not_mem_of_read?_eq_none {keyword content : List Char} {header : Header}
    (unread : read? keyword (keyword ++ (header.text ++ content)) = none) : '}' ∉ content := by
  intro member
  obtain ⟨body, rest, rfl, clear⟩ := List.eq_append_cons_of_mem member
  have found : read? keyword (keyword ++ (header.text ++ (body ++ '}' :: rest))) =
      some (⟨header.name, body⟩, rest) :=
    read?_eq_some_iff.mpr ⟨header, rfl, clear, by simp [written]⟩
  rw [unread] at found
  cases found

-- Before a brace, a stretch without slashes is kept as it is.
theorem dropComments_before_brace {stretch : List Char} (absent : '/' ∉ stretch)
    (content : List Char) :
    dropComments false (stretch ++ '{' :: content) = stretch ++ '{' :: dropComments false content := by
  obtain ⟨kept, outside⟩ := dropComments_eq_self absent
  rw [dropComments_append (.inr (by decide)) (by decide), kept, outside,
    dropComments_false_cons (by decide)]

theorem dropComments_header_append (header : Header) (content : List Char) :
    dropComments false (header.text ++ content) = header.text ++ dropComments false content := by
  have brace := dropComments_before_brace header.slash_not_mem_front content
  rw [Header.text, List.append_assoc, List.append_assoc]
  exact brace

section
variable {keyword : List Char} (word : ∀ c ∈ keyword, isWordChar c = true) (named : keyword ≠ [])

include word in
theorem feed_not_mem_keyword : '\n' ∉ keyword :=
  fun member => absurd (word _ member) (by decide)

include word in
-- A block that ends outside of comment lines is read without them.
theorem read?_dropComments {text rest : List Char} {block : Block}
    (found : read? keyword text = some (block, rest)) (closed : inCommentAfter false block.body = false) :
    read? keyword (dropComments false text) =
      some (block.withoutComments, dropComments false rest) := by
  obtain ⟨header, named, clear, rfl⟩ := read?_eq_some_iff.mp found
  have absent : '/' ∉ keyword ++ header.front := by
    intro member
    rcases List.mem_append.mp member with member | member
    · exact absurd (word _ member) (by decide)
    · exact header.slash_not_mem_front member
  have shape : written keyword header block.body ++ rest =
      (keyword ++ header.front) ++ '{' :: (block.body ++ '}' :: rest) := by
    simp [written, Header.text]
  have dropped : dropComments false (block.body ++ '}' :: rest) =
      dropComments false block.body ++ '}' :: dropComments false rest := by
    rw [dropComments_append (.inr (by decide)) (by decide), closed,
      dropComments_false_cons (by decide)]
  apply read?_eq_some_iff.mpr
  refine ⟨header, named, fun member => clear ?_, ?_⟩
  · exact (dropComments_sublist false block.body).mem member
  · rw [shape, dropComments_before_brace absent, dropped]
    simp [written, Header.text, withoutComments]

include word in
-- Where no block is read, none is read without the comment lines if the header is whole.
theorem passes_dropComments {insideWord : Bool} {text : List Char}
    (passes : Passes keyword insideWord text) (whole : insideWord = false → HeaderWhole keyword text) :
    Passes keyword insideWord (dropComments false text) := by
  rcases passes with inside | unread
  · exact .inl inside
  cases insideWord with
  | true => exact .inl rfl
  | false =>
    right
    cases found : read? keyword (dropComments false text) with
    | none => rfl
    | some pair =>
      obtain ⟨header, -, -, same⟩ := read?_eq_some_iff.mp found
      rw [written, List.append_assoc, List.append_assoc, List.append_assoc] at same
      obtain ⟨after, rfl, dropped⟩ := eq_append_of_dropComments (feed_not_mem_keyword word) same
      have headed : header? (dropComments false after) ≠ none := by
        rw [dropped, header?_text_append]
        exact Option.some_ne_none _
      -- The header is in the text as well, so the closing brace is after it there.
      cases second : header? after with
      | none => exact absurd (whole rfl after rfl second) headed
      | some pair =>
        obtain ⟨other, -, rfl⟩ := header?_eq_some_iff.mp second
        rw [dropComments_header_append] at dropped
        have closes : '}' ∈ other.text ++ dropComments false pair.2 := by simp [dropped]
        have inContent := (List.mem_append.mp closes).resolve_left other.close_not_mem_text
        exact absurd ((dropComments_sublist false _).mem inContent)
          (close_not_mem_of_read?_eq_none unread)

include word named in
theorem extractFrom_break (insideWord : Bool) (rest : List Char) :
    extractFrom keyword insideWord ('\n' :: rest) = extractFrom keyword false rest :=
  extractFrom_cons_of_head? named fun first =>
    feed_not_mem_keyword word (List.mem_of_head? first)

include word named in
-- The scan without comment lines takes the same blocks. Within a comment line it stands
-- still, so what it knows of the character before matters only outside.
theorem extractFrom_dropComments {insideWord inComment : Bool} {text : List Char}
    (apart : CommentsApart keyword insideWord inComment text) {known : Bool}
    (same : inComment = false → known = insideWord) :
    extractFrom keyword known (dropComments inComment text) =
      (extractFrom keyword insideWord text).map withoutComments := by
  induction apart generalizing known with
  | nil => simp [dropComments]
  | @pass insideWord inComment c text passes whole _ ih =>
    rw [extractFrom_cons_of_passes passes]
    -- A line feed is dropped with a comment line after it. Where it stays, it begins no block.
    by_cases feed : c = '\n'
    · subst feed
      rw [dropComments_break]
      rw [if_pos rfl] at ih
      cases opens : opensComment text with
      | true =>
        rw [opens] at ih
        exact ih fun outside => Bool.noConfusion outside
      | false =>
        rw [opens] at ih
        rw [if_neg Bool.false_ne_true, extractFrom_break word named]
        exact ih fun _ => rfl
    · rw [if_neg feed] at ih
      cases inComment with
      | true =>
        rw [dropComments_true_cons feed]
        exact ih fun outside => Bool.noConfusion outside
      | false =>
        have still := passes_dropComments word passes fun outside => whole outside rfl
        rw [dropComments_false_cons feed] at still ⊢
        rw [same rfl, extractFrom_cons_of_passes still]
        exact ih fun _ => rfl
  | @take block text rest found closed _ ih =>
    rw [same rfl, extractFrom_of_read? found,
      extractFrom_of_read? (read?_dropComments word found closed), List.map_cons]
    exact congrArg _ (ih fun _ => rfl)

include word named in
theorem extractFrom_withoutCommentLines {text : List Char}
    (apart : CommentsApart keyword false (opensComment text) text) :
    extractFrom keyword false (withoutCommentLines text) =
      (extractFrom keyword false text).map withoutComments := by
  rw [← extractFrom_dropComments word named apart fun _ => rfl]
  rcases dropComments_eq_withoutCommentLines text with same | same
  · rw [same]
  · rw [same, extractFrom_break word named]

-- Comment lines stay apart where the keyword does not occur.
theorem commentsApart_of_absent {text : List Char} (absent : ¬ keyword <:+: text)
    (insideWord inComment : Bool) : CommentsApart keyword insideWord inComment text := by
  induction text generalizing insideWord inComment with
  | nil => exact .nil
  | cons c text ih =>
    apply CommentsApart.pass
    · right
      cases found : read? keyword (c :: text) with
      | none => rfl
      | some pair =>
        obtain ⟨header, -, -, same⟩ := read?_eq_some_iff.mp found
        rw [written, List.append_assoc, List.append_assoc, List.append_assoc] at same
        exact absurd (same ▸ List.infix_append' [] keyword _) absent
    · intro _ _ after split
      exact absurd (split ▸ (List.prefix_append keyword after).isInfix) absent
    · exact ih (fun member => absent (member.trans (List.suffix_cons c text).isInfix)) _ _

end

end PrismaNest.Block
