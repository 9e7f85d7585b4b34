import Mathlib.Data.List.TakeWhile
import PrismaNest.Proofs.Text.Runs
import PrismaNest.Schema.Block

/-! The shape of a block.

A header is the part between a keyword and the body: blanks, the name, blanks and the
opening brace. A block is read exactly where a keyword, a header, a body without a
closing brace and that brace stand. What precedes the first brace of a text holds the
keyword and the header in one way only.
-/

set_option autoImplicit false

namespace PrismaNest.Block

open Text

-- What stands between the keyword and the body of a block.
@[ext]
structure Header where
  gap : List Char
  name : List Char
  space : List Char
  gap_blank : ∀ c ∈ gap, isBlank c = true
  gap_ne_nil : gap ≠ []
  name_word : ∀ c ∈ name, isWordChar c = true
  name_ne_nil : name ≠ []
  space_blank : ∀ c ∈ space, isBlank c = true

namespace Header

/-- A header up to its brace. -/
def front (header : Header) : List Char :=
  header.gap ++ header.name ++ header.space

def text (header : Header) : List Char :=
  header.front ++ ['{']

theorem front_clear (header : Header) : ∀ c ∈ header.front, isBrace c = false := by
  intro c member
  simp only [front, List.mem_append] at member
  obtain (member | member) | member := member
  · exact not_isBrace_of_isBlank (header.gap_blank c member)
  · exact not_isBrace_of_isWordChar (header.name_word c member)
  · exact not_isBrace_of_isBlank (header.space_blank c member)

theorem close_not_mem_text (header : Header) : '}' ∉ header.text := by
  intro member
  rcases List.mem_append.mp member with member | member
  · exact absurd (header.front_clear _ member) (by decide)
  · exact absurd member (by decide)

theorem name_endsOutside (header : Header) : EndsOutside isBlank header.name :=
  endsOutside_of_forall fun c member => not_isBlank_of_isWordChar (header.name_word c member)

theorem gap_endsOutside (header : Header) : EndsOutside isWordChar header.gap :=
  endsOutside_of_forall fun c member => not_isWordChar_of_isBlank (header.gap_blank c member)

/-- Read backwards from its brace, a header ends where no blank precedes it. -/
theorem append_front_inj {before other : List Char} {header second : Header}
    (ends : EndsOutside isBlank before) (otherEnds : EndsOutside isBlank other)
    (same : before ++ header.front = other ++ second.front) :
    before = other ∧ header = second := by
  simp only [front, ← List.append_assoc] at same
  obtain ⟨same, spaces⟩ := append_run_inj header.space_blank second.space_blank
    (header.name_endsOutside.append _ header.name_ne_nil)
    (second.name_endsOutside.append _ second.name_ne_nil) same
  obtain ⟨same, names⟩ := append_run_inj header.name_word second.name_word
    (header.gap_endsOutside.append _ header.gap_ne_nil)
    (second.gap_endsOutside.append _ second.gap_ne_nil) same
  obtain ⟨befores, gaps⟩ := append_run_inj header.gap_blank second.gap_blank ends otherEnds same
  exact ⟨befores, Header.ext gaps names spaces⟩

end Header

theorem header?_text_append (header : Header) (content : List Char) :
    header? (header.text ++ content) = some (header.name, content) := by
  have nameStarts : StartsOutside isBlank (header.name ++ (header.space ++ '{' :: content)) := by
    intro c first
    cases named : header.name with
    | nil => exact absurd named header.name_ne_nil
    | cons d name =>
      simp only [named, List.cons_append, List.head?_cons, Option.some.injEq] at first
      subst first
      exact not_isBlank_of_isWordChar (header.name_word d (by simp [named]))
  have spaceStarts : StartsOutside isWordChar (header.space ++ '{' :: content) := by
    intro c first
    cases spaced : header.space with
    | nil =>
      simp only [spaced, List.nil_append, List.head?_cons, Option.some.injEq] at first
      subst first
      decide
    | cons d space =>
      simp only [spaced, List.cons_append, List.head?_cons, Option.some.injEq] at first
      subst first
      exact not_isWordChar_of_isBlank (header.space_blank d (by simp [spaced]))
  have opens : StartsOutside isBlank ('{' :: content) := by
    rintro c ⟨⟩
    decide
  have starts : ((header.text ++ content).head?.any isBlank) = true := by
    cases blanks : header.gap with
    | nil => exact absurd blanks header.gap_ne_nil
    | cons d gap =>
      simpa [Header.text, Header.front, blanks] using header.gap_blank d (by simp [blanks])
  have shape : header.text ++ content =
      header.gap ++ (header.name ++ (header.space ++ '{' :: content)) := by
    simp [Header.text, Header.front]
  unfold header?
  rw [if_pos starts, shape, dropWhile_run header.gap_blank nameStarts]
  simp only [takeWhile_run header.name_word spaceStarts, dropWhile_run header.name_word spaceStarts,
    dropWhile_run header.space_blank opens]
  simp [header.name_ne_nil]

theorem header?_eq_some_iff {text name content : List Char} :
    header? text = some (name, content) ↔
      ∃ header : Header, header.name = name ∧ text = header.text ++ content := by
  constructor
  · intro found
    simp only [header?] at found
    split at found
    · rename_i starts
      split at found
      · rename_i after opened
        split at found
        · cases found
        · rename_i named
          cases found
          refine ⟨⟨text.takeWhile isBlank, (text.dropWhile isBlank).takeWhile isWordChar,
            ((text.dropWhile isBlank).dropWhile isWordChar).takeWhile isBlank,
            fun c => List.mem_takeWhile_imp, ?_, fun c => List.mem_takeWhile_imp, by simpa using named,
            fun c => List.mem_takeWhile_imp⟩, rfl, ?_⟩
          · cases text with
            | nil => simp at starts
            | cons c text => simp_all
          · simp only [Header.text, Header.front, List.append_assoc, List.singleton_append]
            rw [← opened, List.takeWhile_append_dropWhile, List.takeWhile_append_dropWhile,
              List.takeWhile_append_dropWhile]
      · cases found
    · cases found
  · rintro ⟨header, rfl, rfl⟩
    exact header?_text_append header content

/-- The text of a block from its keyword through its closing brace. -/
def written (keyword : List Char) (header : Header) (body : List Char) : List Char :=
  keyword ++ header.text ++ body ++ ['}']

theorem afterKeyword?_eq_some_iff {keyword text rest : List Char} :
    afterKeyword? keyword text = some rest ↔ text = keyword ++ rest := by
  unfold afterKeyword?
  constructor
  · intro found
    split at found
    · rename_i starts
      cases found
      obtain ⟨rest, rfl⟩ := List.isPrefixOf_iff_prefix.mp starts
      simp
    · cases found
  · rintro rfl
    simp

-- A block is read where it is written, and nowhere else.
theorem read?_eq_some_iff {keyword text rest : List Char} {block : Block} :
    read? keyword text = some (block, rest) ↔
      ∃ header : Header, header.name = block.name ∧ '}' ∉ block.body ∧
        text = written keyword header block.body ++ rest := by
  have closes (tail : List Char) : StartsOutside (· ≠ '}') ('}' :: tail) := by
    rintro c ⟨⟩
    simp
  constructor
  · intro found
    unfold read? at found
    split at found
    · cases found
    · rename_i name content both
      obtain ⟨after, keyed, headed⟩ := Option.bind_eq_some_iff.mp both
      obtain ⟨header, named, rfl⟩ := header?_eq_some_iff.mp headed
      split at found
      · cases found
      · rename_i c tail closed
        cases found
        have brace : c = '}' := by
          have stop := startsOutside_dropWhile (· ≠ '}') content c (by rw [closed]; rfl)
          simpa using stop
        refine ⟨header, named, fun member => ?_, ?_⟩
        · simpa using List.mem_takeWhile_imp member
        · have whole := List.takeWhile_append_dropWhile (p := (· ≠ '}')) (l := content)
          rw [closed, brace] at whole
          rw [afterKeyword?_eq_some_iff.mp keyed]
          conv_lhs => rw [← whole]
          simp [written]
  · rintro ⟨header, named, clear, rfl⟩
    have all : ∀ c ∈ block.body, decide (c ≠ '}') = true := by
      intro c member
      simpa using fun same : c = '}' => clear (same ▸ member)
    have keyed : afterKeyword? keyword (written keyword header block.body ++ rest) =
        some (header.text ++ (block.body ++ '}' :: rest)) :=
      afterKeyword?_eq_some_iff.mpr (by simp [written])
    unfold read?
    simp only [keyed, Option.bind_some, header?_text_append]
    rw [dropWhile_run all (closes rest), takeWhile_run all (closes rest)]
    simp [named]

end PrismaNest.Block
