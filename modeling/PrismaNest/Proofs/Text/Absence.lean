import Mathlib.Data.List.Basic

/-! Characters that do not occur in a text.

What is put together from texts without a character is without it as well.
-/

set_option autoImplicit false

namespace PrismaNest.Text

/-- A text in which a character does not occur. -/
def Lacks (c : Char) (text : String) : Prop :=
  c ∉ text.toList

instance (c : Char) (text : String) : Decidable (Lacks c text) :=
  inferInstanceAs (Decidable (c ∉ text.toList))

variable {c : Char}

@[simp] theorem lacks_append {text other : String} :
    Lacks c (text ++ other) ↔ Lacks c text ∧ Lacks c other := by
  simp [Lacks]

-- No character of the text is the one that it lacks.
theorem Lacks.decide_eq_false {text : String} (absent : Lacks c text) :
    ∀ d ∈ text.toList, decide (d = c) = false := by
  intro d member
  rw [decide_eq_false_iff_not]
  rintro rfl
  exact absent member

theorem lacks_ofList {chars : List Char} : Lacks c (String.ofList chars) ↔ c ∉ chars := by
  simp [Lacks]

theorem forall_mem_intercalate {P : Char → Prop} {separator : String} {pieces : List String}
    (between : ∀ d ∈ separator.toList, P d) (all : ∀ piece ∈ pieces, ∀ d ∈ piece.toList, P d) :
    ∀ d ∈ (String.intercalate separator pieces).toList, P d := by
  induction pieces with
  | nil => exact fun _ member => nomatch member
  | cons first rest ih =>
    obtain ⟨here, others⟩ := List.forall_mem_cons.mp all
    cases rest with
    | nil =>
      rw [String.intercalate_singleton]
      exact here
    | cons second rest =>
      rw [String.intercalate_cons_cons, String.toList_append, String.toList_append,
        List.forall_mem_append, List.forall_mem_append]
      exact ⟨⟨here, between⟩, ih others⟩

theorem lacks_intercalate {separator : String} {pieces : List String}
    (apart : Lacks c separator) (all : ∀ piece ∈ pieces, Lacks c piece) :
    Lacks c (String.intercalate separator pieces) := by
  have differs {text : String} (absent : Lacks c text) : ∀ d ∈ text.toList, d ≠ c := fun d member same =>
    absent (same ▸ member)
  exact fun member => forall_mem_intercalate (differs apart) (fun piece inside => differs (all piece inside))
    c member rfl

theorem lacks_repr (plain : c.isDigit = false) (n : Nat) : Lacks c n.repr := by
  intro member
  rw [Nat.toList_repr] at member
  rw [Nat.isDigit_of_mem_toDigits (by decide) (by decide) member] at plain
  cases plain

/-- A text that can stand between quotes on one line. -/
structure Quotable (text : String) : Prop where
  noQuote : Lacks '\'' text
  unbroken : Lacks '\n' text

theorem quotable_iff {text : String} : Quotable text ↔ Lacks '\'' text ∧ Lacks '\n' text :=
  ⟨fun quotable => ⟨quotable.noQuote, quotable.unbroken⟩, fun both => ⟨both.1, both.2⟩⟩

instance (text : String) : Decidable (Quotable text) :=
  decidable_of_iff _ quotable_iff.symm

theorem quotable_intercalate {separator : String} {pieces : List String}
    (apart : Quotable separator) (all : ∀ piece ∈ pieces, Quotable piece) :
    Quotable (String.intercalate separator pieces) := by
  constructor
  · exact lacks_intercalate apart.noQuote fun piece member => (all piece member).noQuote
  · exact lacks_intercalate apart.unbroken fun piece member => (all piece member).unbroken

end PrismaNest.Text
