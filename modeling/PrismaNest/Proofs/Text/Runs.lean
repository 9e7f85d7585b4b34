import Mathlib.Data.List.DropRight
import PrismaNest.Text.Blank
import PrismaNest.Text.WordChar

/-! Runs of characters of one kind.

A run is cut off a text at the first character of another kind, so a text has one
decomposition into a run and a rest that does not go on with it. The same holds from
the other end. Blanks, word characters and braces are three kinds without a common
character.
-/

set_option autoImplicit false

namespace PrismaNest.Text

section
variable {α : Type} {p : α → Bool}

/-- A text that does not start with a character of some kind. -/
def StartsOutside (p : α → Bool) (text : List α) : Prop :=
  ∀ c, text.head? = some c → p c = false

/-- A text that does not end in a character of some kind. -/
def EndsOutside (p : α → Bool) (text : List α) : Prop :=
  ∀ c, text.getLast? = some c → p c = false

instance (p : α → Bool) (text : List α) : Decidable (StartsOutside p text) :=
  inferInstanceAs (Decidable (∀ c ∈ text.head?, p c = false))

instance (p : α → Bool) (text : List α) : Decidable (EndsOutside p text) :=
  inferInstanceAs (Decidable (∀ c ∈ text.getLast?, p c = false))

theorem startsOutside_dropWhile (p : α → Bool) (text : List α) :
    StartsOutside p (text.dropWhile p) := by
  intro c first
  have stop := List.head?_dropWhile_not p text
  rw [first] at stop
  exact stop

theorem EndsOutside.reverse {text : List α} (ends : EndsOutside p text) :
    StartsOutside p text.reverse := by
  intro c first
  exact ends c (by simpa using first)

-- The last character decides, whatever stands before it.
theorem EndsOutside.append {text : List α} (front : List α) (ends : EndsOutside p text)
    (inside : text ≠ []) : EndsOutside p (front ++ text) := by
  intro c last
  rw [List.getLast?_append_of_ne_nil front inside] at last
  exact ends c last

theorem EndsOutside.cons {text : List α} {first : α} (outside : p first = false)
    (ends : EndsOutside p text) : EndsOutside p (first :: text) := by
  cases text with
  | nil =>
    intro c last
    obtain rfl : first = c := by simpa using last
    exact outside
  | cons second text => exact ends.append [first] (List.cons_ne_nil _ _)

theorem endsOutside_of_forall {text : List α} (all : ∀ c ∈ text, p c = false) :
    EndsOutside p text :=
  fun c last => all c (List.mem_of_getLast? last)

theorem dropWhile_run {run rest : List α} (all : ∀ c ∈ run, p c = true)
    (stop : StartsOutside p rest) : (run ++ rest).dropWhile p = rest := by
  rw [List.dropWhile_append_of_pos all]
  cases rest with
  | nil => rfl
  | cons c rest => exact List.dropWhile_cons_of_neg (by simp [stop c rfl])

theorem dropWhile_of_startsOutside {text : List α} (start : StartsOutside p text) :
    text.dropWhile p = text :=
  dropWhile_run (fun _ member => absurd member List.not_mem_nil) start

theorem takeWhile_run {run rest : List α} (all : ∀ c ∈ run, p c = true)
    (stop : StartsOutside p rest) : (run ++ rest).takeWhile p = run := by
  rw [List.takeWhile_append_of_pos all]
  cases rest with
  | nil => simp
  | cons c rest => simp [stop c rfl]

theorem rdropWhile_run {front run : List α} (all : ∀ c ∈ run, p c = true) (stop : EndsOutside p front) :
    (front ++ run).rdropWhile p = front := by
  rw [List.rdropWhile, List.reverse_append, dropWhile_run (by simpa using all) stop.reverse,
    List.reverse_reverse]

theorem rtakeWhile_run {front run : List α} (all : ∀ c ∈ run, p c = true) (stop : EndsOutside p front) :
    (front ++ run).rtakeWhile p = run := by
  rw [List.rtakeWhile, List.reverse_append, takeWhile_run (by simpa using all) stop.reverse,
    List.reverse_reverse]

-- A run and a rest are determined by their concatenation.
theorem run_append_inj {run other rest tail : List α} (all : ∀ c ∈ run, p c = true)
    (otherAll : ∀ c ∈ other, p c = true) (stop : StartsOutside p rest)
    (otherStop : StartsOutside p tail) (same : run ++ rest = other ++ tail) :
    run = other ∧ rest = tail := by
  have runs := congrArg (List.takeWhile p) same
  have rests := congrArg (List.dropWhile p) same
  rw [takeWhile_run all stop, takeWhile_run otherAll otherStop] at runs
  rw [dropWhile_run all stop, dropWhile_run otherAll otherStop] at rests
  exact ⟨runs, rests⟩

theorem append_run_inj {front head run other : List α} (all : ∀ c ∈ run, p c = true)
    (otherAll : ∀ c ∈ other, p c = true) (stop : EndsOutside p front)
    (otherStop : EndsOutside p head) (same : front ++ run = head ++ other) :
    front = head ∧ run = other := by
  have reversed : run.reverse ++ front.reverse = other.reverse ++ head.reverse := by
    rw [← List.reverse_append, ← List.reverse_append, same]
  obtain ⟨runs, fronts⟩ := run_append_inj (p := p) (by simpa using all) (by simpa using otherAll)
    stop.reverse otherStop.reverse reversed
  exact ⟨List.reverse_inj.mp fronts, List.reverse_inj.mp runs⟩

-- The first character of some kind splits a text in one way.
theorem split_first_inj {front head rest tail : List α} {c d : α}
    (clear : ∀ x ∈ front, p x = false) (otherClear : ∀ x ∈ head, p x = false)
    (kind : p c = true) (otherKind : p d = true) (same : front ++ c :: rest = head ++ d :: tail) :
    front = head ∧ c = d ∧ rest = tail := by
  have opposite : ∀ x, (!p x) = true ↔ p x = false := by simp
  obtain ⟨fronts, rests⟩ := run_append_inj (p := fun x => !p x)
    (fun x member => (opposite x).mpr (clear x member))
    (fun x member => (opposite x).mpr (otherClear x member))
    (fun x first => by simp_all) (fun x first => by simp_all) same
  exact ⟨fronts, List.cons.inj rests⟩

-- Around its only occurrence, a character splits a text in one way.
theorem split_only_inj [DecidableEq α] {front head rest tail : List α} {c : α} (before : c ∉ front)
    (after : c ∉ rest) (same : front ++ c :: rest = head ++ c :: tail) :
    front = head ∧ rest = tail := by
  have occurrences := congrArg (List.count c) same
  simp only [List.count_append, List.count_cons_self, List.count_eq_zero_of_not_mem before,
    List.count_eq_zero_of_not_mem after] at occurrences
  have none : c ∉ head := List.count_eq_zero.mp (by omega)
  obtain ⟨fronts, -, rests⟩ := split_first_inj (p := fun x => decide (x = c))
    (fun x member => decide_eq_false fun equal => before (equal ▸ member))
    (fun x member => decide_eq_false fun equal => none (equal ▸ member))
    (decide_eq_true rfl) (decide_eq_true rfl) same
  exact ⟨fronts, rests⟩

end

theorem not_isWordChar_of_isBlank {c : Char} (blank : isBlank c = true) :
    isWordChar c = false := by
  obtain ⟨range, member, low, high⟩ := exists_range_of_inRanges blank
  have apart : ∀ code ∈ blankRanges.flatMap (fun range => List.range' range.1 (range.2 + 1 - range.1)),
      inRanges wordRanges code = false := by decide +kernel
  refine apart c.toNat (List.mem_flatMap.mpr ⟨range, member, ?_⟩)
  rw [List.mem_range'_1]
  omega

theorem not_isBlank_of_isWordChar {c : Char} (word : isWordChar c = true) :
    isBlank c = false := by
  cases blank : isBlank c with
  | false => rfl
  | true => simp [not_isWordChar_of_isBlank blank] at word

/-- The two characters between which the body of a block stands. -/
def isBrace (c : Char) : Bool :=
  c = '{' || c = '}'

theorem not_isBrace_of_isBlank {c : Char} (blank : isBlank c = true) : isBrace c = false := by
  cases brace : isBrace c with
  | false => rfl
  | true =>
    simp only [isBrace, Bool.or_eq_true, decide_eq_true_eq] at brace
    obtain rfl | rfl := brace <;> exact absurd blank (by decide)

theorem not_isBrace_of_isWordChar {c : Char} (word : isWordChar c = true) : isBrace c = false := by
  cases brace : isBrace c with
  | false => rfl
  | true =>
    simp only [isBrace, Bool.or_eq_true, decide_eq_true_eq] at brace
    obtain rfl | rfl := brace <;> exact absurd word (by decide)

end PrismaNest.Text
