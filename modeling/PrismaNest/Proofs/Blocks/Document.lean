import PrismaNest.Proofs.Blocks.Scan

/-! Documents: blocks of any keyword with gaps between them.

Gaps and bodies hold no braces, and a gap does not run into the keyword after it. The
scan for one keyword takes exactly the sections with that keyword. A word of the gap
cannot begin a block that ends in the header of the section, because the header read
backwards from its brace stops at the section's own keyword.
-/

set_option autoImplicit false

namespace PrismaNest

open Text

namespace Block

/-- A text without braces. -/
def Braceless (text : List Char) : Prop :=
  ∀ c ∈ text, isBrace c = false

theorem braceless_iff {text : List Char} : Braceless text ↔ (text.all fun c => !isBrace c) = true := by
  simp [Braceless]

instance (text : List Char) : Decidable (Braceless text) :=
  decidable_of_iff _ braceless_iff.symm

/-- A block of some keyword as it is written, with a body that holds no braces. -/
structure Section extends Header where
  keyword : List Char
  body : List Char
  keyword_word : ∀ c ∈ keyword, isWordChar c = true
  keyword_ne_nil : keyword ≠ []
  body_braceless : Braceless body

/-- What stands between two blocks. -/
structure Gap where
  text : List Char
  braceless : Braceless text
  ends : EndsOutside isWordChar text

namespace Section

def text (part : Section) : List Char :=
  written part.keyword part.toHeader part.body

def block (part : Section) : Block :=
  ⟨part.name, part.body⟩

/-- What a section has before its opening brace, and from there on. -/
def head (part : Section) : List Char :=
  part.keyword ++ part.front

def tail (part : Section) : List Char :=
  '{' :: part.body ++ ['}']

theorem head_append_tail (part : Section) : part.head ++ part.tail = part.text := by
  simp [head, tail, text, written, Header.text]

theorem keyword_endsOutside (part : Section) : EndsOutside isBlank part.keyword :=
  endsOutside_of_forall fun c member => not_isBlank_of_isWordChar (part.keyword_word c member)

theorem head_braceless (part : Section) : Braceless part.head := by
  intro c member
  obtain member | member := List.mem_append.mp member
  · exact not_isBrace_of_isWordChar (part.keyword_word c member)
  · exact part.front_clear c member

end Section

section
variable {keyword : List Char} (word : ∀ c ∈ keyword, isWordChar c = true) (named : keyword ≠ [])
include word

-- Where a block is read, its keyword and the front of its header reach to the first brace.
theorem front_of_read? {text rest : List Char} {block : Block}
    (found : read? keyword text = some (block, rest)) :
    ∃ (header : Header) (content : List Char), Braceless (keyword ++ header.front) ∧
      text = (keyword ++ header.front) ++ '{' :: content := by
  obtain ⟨header, -, -, same⟩ := read?_eq_some_iff.mp found
  refine ⟨header, block.body ++ '}' :: rest, fun c member => ?_, ?_⟩
  · obtain member | member := List.mem_append.mp member
    · exact not_isBrace_of_isWordChar (word c member)
    · exact header.front_clear c member
  · simp [same, written, Header.text]

-- A text without braces holds no block.
theorem extractFrom_braceless {text : List Char} (clear : Braceless text) :
    extractFrom keyword false text = [] := by
  have passes : ∀ before after, text = before ++ after → after ≠ [] →
      Passes keyword (insideWordAfter false before) (after ++ []) := by
    intro before after split _
    right
    cases found : read? keyword (after ++ []) with
    | none => rfl
    | some pair =>
      obtain ⟨header, content, -, same⟩ := front_of_read? word found
      have brace : '{' ∈ text := by
        rw [split, ← List.append_nil after, same]
        simp
      exact absurd (clear _ brace) (by decide)
  have passed := extractFrom_append passes
  rw [List.append_nil] at passed
  rw [passed, extractFrom_nil]

include named

-- Before the opening brace of a section, only its own keyword can begin a block.
theorem eq_of_read?_before_brace {gap : Gap} {part : Section} {before after content rest : List Char}
    {block : Block} (split : gap.text ++ part.head = before ++ after)
    (outside : EndsOutside isWordChar before)
    (found : read? keyword (after ++ '{' :: content) = some (block, rest)) :
    before = gap.text ∧ keyword = part.keyword := by
  obtain ⟨header, _, clear, same⟩ := front_of_read? word found
  have afterClear : Braceless after := by
    intro c member
    have whole : c ∈ gap.text ++ part.head := split ▸ List.mem_append_right before member
    exact (List.mem_append.mp whole).elim (gap.braceless c) (part.head_braceless c)
  obtain ⟨rfl, -, -⟩ := split_first_inj afterClear clear (by decide) (by decide) same
  have keywordEnds : EndsOutside isBlank keyword :=
    endsOutside_of_forall fun c member => not_isBlank_of_isWordChar (word c member)
  have fronts : (before ++ keyword) ++ header.front = (gap.text ++ part.keyword) ++ part.front := by
    simpa [Section.head] using split.symm
  obtain ⟨keywords, -⟩ := Header.append_front_inj (keywordEnds.append before named)
    (part.keyword_endsOutside.append gap.text part.keyword_ne_nil) fronts
  exact append_run_inj word part.keyword_word outside gap.ends keywords

-- No block begins between the opening brace of a section and its end.
theorem read?_after_brace {part : Section} {before after : List Char} (rest : List Char)
    (split : part.tail = before ++ after) (inside : after ≠ []) :
    read? keyword (after ++ rest) = none := by
  cases found : read? keyword (after ++ rest) with
  | none => rfl
  | some pair =>
    obtain ⟨header, content, clear, same⟩ := front_of_read? word found
    have fronted : keyword ++ header.front ≠ [] := by simp [named]
    cases before with
    | nil =>
      rw [List.nil_append] at split
      rw [← split] at same
      have start : [] ++ '{' :: (part.body ++ ['}'] ++ rest) =
          (keyword ++ header.front) ++ '{' :: content := by
        simpa [Section.tail] using same
      obtain ⟨empty, -, -⟩ := split_first_inj (by simp) clear (by decide) (by decide) start
      exact absurd empty.symm fronted
    | cons c before =>
      obtain ⟨start, last, rfl⟩ := (List.eq_nil_or_concat' after).resolve_left inside
      obtain ⟨-, closing⟩ : c = '{' ∧ part.body ++ ['}'] = (before ++ start) ++ [last] := by
        simpa [Section.tail, eq_comm] using split
      obtain ⟨body, closing⟩ := List.append_inj' closing rfl
      cases closing
      have startClear : Braceless start :=
        fun c member => part.body_braceless c (body ▸ List.mem_append_right before member)
      have shape : start ++ '}' :: rest = (keyword ++ header.front) ++ '{' :: content := by
        simpa using same
      obtain ⟨-, braces, -⟩ := split_first_inj startClear clear (by decide) (by decide) shape
      cases braces

-- In a gap and the section after it, a block can begin only with the section.
theorem passes_or_starts_section {gap : Gap} {part : Section} {before after : List Char}
    (rest : List Char) (split : gap.text ++ part.text = before ++ after) (inside : after ≠ []) :
    Passes keyword (insideWordAfter false before) (after ++ rest) ∨
      before = gap.text ∧ keyword = part.keyword := by
  cases word' : insideWordAfter false before with
  | true => exact .inl (.inl rfl)
  | false =>
    have outside := insideWordAfter_eq_false_iff.mp word'
    cases found : read? keyword (after ++ rest) with
    | none => exact .inl (.inr found)
    | some pair =>
      right
      rw [← Section.head_append_tail, ← List.append_assoc] at split
      obtain ⟨middle, ahead, behind⟩ | ⟨middle, ahead, behind⟩ := List.append_eq_append_iff.mp split
      · simp [read?_after_brace word named rest behind inside] at found
      · rw [behind, Section.tail, List.append_assoc, List.append_assoc, List.cons_append] at found
        exact eq_of_read?_before_brace word named ahead outside found

-- A gap and the section after it give the section's block, or nothing.
theorem extractFrom_gap_section (gap : Gap) (part : Section) (rest : List Char) :
    extractFrom keyword false (gap.text ++ part.text ++ rest) =
      (if part.keyword = keyword then [part.block] else []) ++ extractFrom keyword false rest := by
  by_cases same : part.keyword = keyword
  · have passes : ∀ before after, gap.text = before ++ after → after ≠ [] →
        Passes keyword (insideWordAfter false before) (after ++ (part.text ++ rest)) := by
      intro before after split inside
      have longer : gap.text ++ part.text = before ++ (after ++ part.text) := by
        rw [split, List.append_assoc]
      obtain passes | ⟨whole, -⟩ := passes_or_starts_section word named rest longer (by simp [inside])
      · rwa [List.append_assoc] at passes
      · exact absurd (List.append_right_eq_self.mp (split.symm.trans whole.symm)) inside
    have read : read? keyword (part.text ++ rest) = some (part.block, rest) :=
      read?_eq_some_iff.mpr ⟨part.toHeader, rfl,
        fun member => absurd (part.body_braceless _ member) (by decide), by rw [← same]; rfl⟩
    rw [List.append_assoc, extractFrom_append passes, insideWordAfter_eq_false_iff.mpr gap.ends,
      extractFrom_of_read? read, if_pos same, List.singleton_append]
  · have passes : ∀ before after, gap.text ++ part.text = before ++ after → after ≠ [] →
        Passes keyword (insideWordAfter false before) (after ++ rest) := by
      intro before after split inside
      exact (passes_or_starts_section word named rest split inside).resolve_right
        fun starts => same starts.2.symm
    have outside : insideWordAfter false (gap.text ++ part.text) = false := by
      rw [Section.text, written, ← List.append_assoc, insideWordAfter_concat]
      decide
    rw [extractFrom_append passes, outside, if_neg same, List.nil_append]

end

end Block

/-- Blocks of any keyword, each after a gap, and a gap at the end. -/
structure Document where
  parts : List (Block.Gap × Block.Section)
  ending : Block.Gap

namespace Document

def sections (document : Document) : List Block.Section :=
  document.parts.map Prod.snd

def text (document : Document) : List Char :=
  (document.parts.flatMap fun part => part.1.text ++ part.2.text) ++ document.ending.text

-- The scan takes the sections with its keyword, in order, and nothing else.
theorem extractFrom_text (document : Document) {keyword : List Char}
    (word : ∀ c ∈ keyword, isWordChar c = true) (named : keyword ≠ []) :
    Block.extractFrom keyword false document.text =
      (document.sections.filter (·.keyword = keyword)).map Block.Section.block := by
  obtain ⟨parts, ending⟩ := document
  simp only [text, sections]
  induction parts with
  | nil => exact Block.extractFrom_braceless word ending.braceless
  | cons part parts ih =>
    obtain ⟨gap, part⟩ := part
    rw [List.flatMap_cons, List.append_assoc, Block.extractFrom_gap_section word named, ih]
    by_cases same : part.keyword = keyword <;> simp [same]

end Document

end PrismaNest
