import PrismaNest.Proofs.Blocks.Header

/-! The scan for blocks.

The scan goes over a text from left to right. It passes a character where no block
stands or a word goes on, and takes the block where one does. A stretch in which no
block stands is passed as a whole, and only its last character matters for what follows.
-/

set_option autoImplicit false

namespace PrismaNest.Block

open Text

/-- Whether a word character stands right before the end of a stretch; an empty stretch
leaves what was known before it. -/
def insideWordAfter (insideWord : Bool) (stretch : List Char) : Bool :=
  (stretch.getLast?.map isWordChar).getD insideWord

@[simp] theorem insideWordAfter_nil (insideWord : Bool) :
    insideWordAfter insideWord [] = insideWord := rfl

@[simp] theorem insideWordAfter_concat (insideWord : Bool) (stretch : List Char) (c : Char) :
    insideWordAfter insideWord (stretch ++ [c]) = isWordChar c := by
  simp [insideWordAfter]

theorem insideWordAfter_cons (insideWord : Bool) (c : Char) (stretch : List Char) :
    insideWordAfter insideWord (c :: stretch) = insideWordAfter (isWordChar c) stretch := by
  rw [insideWordAfter, insideWordAfter, List.getLast?_cons]
  cases stretch.getLast? <;> rfl

theorem insideWordAfter_eq_false_iff {stretch : List Char} :
    insideWordAfter false stretch = false ↔ EndsOutside isWordChar stretch := by
  unfold insideWordAfter EndsOutside
  cases stretch.getLast? <;> simp

variable {keyword text rest : List Char} {insideWord : Bool}

/-- No block of a keyword can be taken at the start of a text. -/
def Passes (keyword : List Char) (insideWord : Bool) (text : List Char) : Prop :=
  insideWord = true ∨ read? keyword text = none

@[simp] theorem extractFrom_nil : extractFrom keyword insideWord [] = [] := by
  rw [extractFrom]

theorem extractFrom_cons_of_passes {c : Char} (passes : Passes keyword insideWord (c :: text)) :
    extractFrom keyword insideWord (c :: text) = extractFrom keyword (isWordChar c) text := by
  have nothing : (if insideWord then none else read? keyword (c :: text)) = none := by
    rcases passes with inside | unread
    · simp [inside]
    · simp [unread]
  rw [extractFrom]
  split
  · rename_i found
    rw [nothing] at found
    cases found
  · rfl

-- No block stands where its keyword does not begin.
theorem extractFrom_cons_of_head? (named : keyword ≠ []) {c : Char} (other : keyword.head? ≠ some c) :
    extractFrom keyword insideWord (c :: text) = extractFrom keyword (isWordChar c) text := by
  apply extractFrom_cons_of_passes
  right
  cases found : read? keyword (c :: text) with
  | none => rfl
  | some pair =>
    obtain ⟨header, -, -, same⟩ := read?_eq_some_iff.mp found
    obtain ⟨first, others, rfl⟩ := List.exists_cons_of_ne_nil named
    cases same
    exact absurd rfl other

theorem extractFrom_of_read? {block : Block} (found : read? keyword text = some (block, rest)) :
    extractFrom keyword false text = block :: extractFrom keyword false rest := by
  cases text with
  | nil => exact absurd (length_read?_lt found) (Nat.not_lt_zero _)
  | cons c text =>
    rw [extractFrom]
    split
    · rename_i taken
      simp only [Bool.false_eq_true, ↓reduceIte, found, Option.some.injEq, Prod.mk.injEq] at taken
      obtain ⟨rfl, rfl⟩ := taken
      rfl
    · rename_i missed
      simp [found] at missed

theorem extractFrom_append {stretch : List Char}
    (passes : ∀ before after, stretch = before ++ after → after ≠ [] →
      Passes keyword (insideWordAfter insideWord before) (after ++ rest)) :
    extractFrom keyword insideWord (stretch ++ rest) =
      extractFrom keyword (insideWordAfter insideWord stretch) rest := by
  induction stretch generalizing insideWord with
  | nil => rfl
  | cons c stretch ih =>
    have first : Passes keyword insideWord (c :: (stretch ++ rest)) :=
      passes [] (c :: stretch) rfl (List.cons_ne_nil _ _)
    rw [List.cons_append, extractFrom_cons_of_passes first, insideWordAfter_cons]
    apply ih
    rintro before after rfl inside
    have next := passes (c :: before) after rfl inside
    rwa [insideWordAfter_cons] at next

end PrismaNest.Block
