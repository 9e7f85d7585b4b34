import PrismaNest.Proofs.Text.Absence

/-! Nested brackets.

In a nested text every closing bracket belongs to the last bracket that is still open, and none
stays open. Reading a text with a stack of the closing brackets that are due decides this. Only the
brackets of a text matter, so what holds none can be left out.
-/

set_option autoImplicit false

namespace PrismaNest.Text

/-- Opening brackets, each with the one that closes it. -/
def bracketPairs : List (Char × Char) :=
  [('(', ')'), ('[', ']'), ('\x7b', '\x7d')]

def bracketSigns : List Char :=
  ['(', ')', '[', ']', '\x7b', '\x7d']

def isBracket (c : Char) : Bool :=
  bracketSigns.contains c

/-- Texts in which the brackets match. -/
inductive Nested : List Char → Prop where
  | nil : Nested []
  | other {c : Char} {text : List Char} : isBracket c = false → Nested text → Nested (c :: text)
  | pair {opening closing : Char} {inner rest : List Char} : (opening, closing) ∈ bracketPairs →
      Nested inner → Nested rest → Nested (opening :: (inner ++ closing :: rest))

namespace Nested

variable {text other : List Char}

theorem append (nested : Nested text) (further : Nested other) : Nested (text ++ other) := by
  induction nested with
  | nil => exact further
  | other plain _ ih => exact .other plain ih
  | pair isPair inside _ _ ih =>
    rw [List.cons_append, List.append_assoc, List.cons_append]
    exact .pair isPair inside ih

theorem enclose {opening closing : Char} (isPair : (opening, closing) ∈ bracketPairs)
    (nested : Nested text) : Nested (opening :: (text ++ [closing])) :=
  .pair isPair nested .nil

end Nested

/-- Whether a text closes all brackets that are due, the first one first, and leaves none open. -/
def closesAll : List Char → List Char → Bool
  | due, [] => due.isEmpty
  | due, c :: text =>
    match bracketPairs.lookup c with
    | some closing => closesAll (closing :: due) text
    | none =>
      if isBracket c then
        match due with
        | expected :: outer => c == expected && closesAll outer text
        | [] => false
      else closesAll due text

section
variable {due text : List Char} {c opening closing : Char}

theorem lookup_of_mem_bracketPairs (isPair : (opening, closing) ∈ bracketPairs) :
    bracketPairs.lookup opening = some closing ∧ bracketPairs.lookup closing = none ∧
      isBracket closing = true := by
  have all : ∀ pair ∈ bracketPairs, bracketPairs.lookup pair.1 = some pair.2 ∧
      bracketPairs.lookup pair.2 = none ∧ isBracket pair.2 = true := by decide
  exact all _ isPair

theorem mem_bracketPairs_of_lookup (found : bracketPairs.lookup c = some closing) :
    (c, closing) ∈ bracketPairs := by
  obtain ⟨front, back, split, -⟩ := List.lookup_eq_some_iff.mp found
  rw [split]
  exact List.mem_append_right front List.mem_cons_self

theorem lookup_of_not_isBracket (plain : isBracket c = false) : bracketPairs.lookup c = none := by
  cases found : bracketPairs.lookup c with
  | none => rfl
  | some closing =>
    have brackets : ∀ pair ∈ bracketPairs, isBracket pair.1 = true := by decide
    have bracket : isBracket c = true := brackets _ (mem_bracketPairs_of_lookup found)
    rw [bracket] at plain
    cases plain

@[simp] theorem closesAll_other (plain : isBracket c = false) :
    closesAll due (c :: text) = closesAll due text := by
  rw [closesAll.eq_def]
  simp only [lookup_of_not_isBracket plain, plain, Bool.false_eq_true, ↓reduceIte]

theorem closesAll_opening (isPair : (opening, closing) ∈ bracketPairs) :
    closesAll due (opening :: text) = closesAll (closing :: due) text := by
  rw [closesAll.eq_def]
  simp only [(lookup_of_mem_bracketPairs isPair).1]

theorem closesAll_closing (isPair : (opening, closing) ∈ bracketPairs) :
    closesAll (closing :: due) (closing :: text) = closesAll due text := by
  obtain ⟨-, absent, bracket⟩ := lookup_of_mem_bracketPairs isPair
  rw [closesAll.eq_def]
  simp only [absent, bracket, ↓reduceIte, BEq.rfl, Bool.true_and]

-- A nested text changes nothing in what is due.
theorem Nested.closesAll_append (nested : Nested text) (due rest : List Char) :
    closesAll due (text ++ rest) = closesAll due rest := by
  induction nested generalizing due rest with
  | nil => rfl
  | other plain _ ih => rw [List.cons_append, closesAll_other plain, ih]
  | pair isPair _ _ inside after =>
    rw [List.cons_append, closesAll_opening isPair, List.append_assoc, inside, List.cons_append,
      closesAll_closing isPair, after]

/-- A text that closes all that is due: nested texts, and the closing brackets between them. -/
inductive Closes : List Char → List Char → Prop where
  | done {text : List Char} : Nested text → Closes [] text
  | next {closing : Char} {due inner rest : List Char} : Nested inner → Closes due rest →
      Closes (closing :: due) (inner ++ closing :: rest)

-- What stays nested in front of nested texts can stand in front.
theorem Closes.after (front : List Char) (extended : ∀ inner, Nested inner → Nested (front ++ inner))
    (closes : Closes due text) : Closes due (front ++ text) := by
  cases closes with
  | done nested => exact .done (extended _ nested)
  | next nested further =>
    rw [← List.append_assoc]
    exact .next (extended _ nested) further

theorem closes_of_closesAll (closed : closesAll due text = true) : Closes due text := by
  induction text generalizing due with
  | nil =>
    rw [closesAll, List.isEmpty_iff] at closed
    rw [closed]
    exact .done .nil
  | cons c text ih =>
    rw [closesAll.eq_def] at closed
    dsimp only at closed
    split at closed
    · -- What closes the bracket opened here is followed by what closes the others.
      rename_i closing found
      have isPair := mem_bracketPairs_of_lookup found
      cases ih closed with
      | next inside further =>
        rename_i inner rest
        have split : c :: (inner ++ closing :: rest) = (c :: (inner ++ [closing])) ++ rest := by simp
        rw [split]
        refine Closes.after _ (fun more nested => ?_) further
        rw [List.cons_append, List.append_assoc, List.singleton_append]
        exact .pair isPair inside nested
    · split at closed
      · split at closed
        · rename_i expected outer
          rw [Bool.and_eq_true, beq_iff_eq] at closed
          obtain ⟨rfl, closed⟩ := closed
          exact @Closes.next _ outer [] text .nil (ih closed)
        · cases closed
      · rename_i plain
        exact Closes.after [c]
          (fun more nested => .other (Bool.eq_false_iff.mpr plain) nested) (ih closed)

end

theorem nested_iff {text : List Char} : Nested text ↔ closesAll [] text = true := by
  constructor
  · intro nested
    have closed := nested.closesAll_append [] []
    rwa [List.append_nil] at closed
  · intro closed
    cases closes_of_closesAll closed with
    | done nested => exact nested

instance (text : List Char) : Decidable (Nested text) :=
  decidable_of_iff _ nested_iff.symm

/-- The brackets of a text. -/
def brackets (text : String) : List Char :=
  text.toList.filter isBracket

theorem closesAll_filter (due text : List Char) :
    closesAll due (text.filter isBracket) = closesAll due text := by
  induction text generalizing due with
  | nil => rfl
  | cons c text ih =>
    cases bracket : isBracket c with
    | false => rw [List.filter_cons_of_neg (by simp [bracket]), closesAll_other bracket, ih]
    | true =>
      rw [List.filter_cons_of_pos bracket, closesAll.eq_def, closesAll.eq_def due (c :: text)]
      simp only [ih]

-- Only the brackets of a text matter.
theorem nested_brackets {text : String} : Nested (brackets text) ↔ Nested text.toList := by
  rw [nested_iff, nested_iff, brackets, closesAll_filter]

@[simp] theorem brackets_append (text other : String) :
    brackets (text ++ other) = brackets text ++ brackets other := by
  simp [brackets]

theorem brackets_eq_nil_iff {text : String} :
    brackets text = [] ↔ ∀ sign ∈ bracketSigns, Lacks sign text := by
  simp only [brackets, List.filter_eq_nil_iff, isBracket, List.contains_iff_mem, Lacks]
  exact ⟨fun plain sign bracket member => plain sign member bracket,
    fun absent c member bracket => absent c bracket member⟩

theorem not_of_mem_bracketSigns {kind : Char → Bool}
    (outside : (bracketSigns.all fun sign => !kind sign) = true) {sign : Char}
    (bracket : sign ∈ bracketSigns) : kind sign = false := by
  simpa using List.all_eq_true.mp outside sign bracket

-- A text of characters of a kind that no bracket is of.
theorem brackets_eq_nil_of_forall {kind : Char → Bool}
    (outside : (bracketSigns.all fun sign => !kind sign) = true) {text : String}
    (inside : ∀ c ∈ text.toList, kind c = true) : brackets text = [] := by
  rw [brackets_eq_nil_iff]
  intro sign bracket member
  have other := not_of_mem_bracketSigns outside bracket
  rw [inside sign member] at other
  cases other

theorem brackets_intercalate {separator : String} (apart : brackets separator = [])
    (pieces : List String) :
    brackets (String.intercalate separator pieces) = pieces.flatMap brackets := by
  induction pieces with
  | nil => rfl
  | cons first pieces ih =>
    cases pieces with
    | nil => rw [String.intercalate_singleton, List.flatMap_singleton]
    | cons second pieces =>
      rw [String.intercalate_cons_cons, brackets_append, brackets_append, apart, List.append_nil, ih]
      rfl

theorem brackets_repr (n : Nat) : brackets n.repr = [] := by
  have digits : ∀ c ∈ n.repr.toList, c.isDigit = true := by
    intro c member
    rw [Nat.toList_repr] at member
    exact Nat.isDigit_of_mem_toDigits (by decide) (by decide) member
  exact brackets_eq_nil_of_forall (by decide) digits

end PrismaNest.Text
