import Mathlib.Data.List.Basic
import PrismaNest.Naming.Words

/-! The words of texts that differ at the end.

Three characters in a row tell where a word ends. So two texts with a common front are divided alike
in front of the last character that they share, unless the next one tells whether a capital ends its
run. What is true of their words from there on is true of all their words, if more words in front do
not matter.
-/

set_option autoImplicit false

namespace PrismaNest.Naming

/-- Lists of words that are the same but for the last word. -/
def SameButLast {α : Type} (words others : List α) : Prop :=
  ∃ front last otherLast, words = front ++ [last] ∧ others = front ++ [otherLast]

theorem SameButLast.length_eq {α : Type} {words others : List α} (same : SameButLast words others) :
    words.length = others.length := by
  obtain ⟨front, last, otherLast, rfl, rfl⟩ := same
  rw [List.length_append, List.length_append]
  rfl

theorem SameButLast.map {α β : Type} (f : α → β) {words others : List α}
    (same : SameButLast words others) : SameButLast (words.map f) (others.map f) := by
  obtain ⟨front, last, otherLast, rfl, rfl⟩ := same
  exact ⟨front.map f, f last, f otherLast, List.map_append, List.map_append⟩

/-- Relations of words that stay true with the same in front of both. -/
structure Extends (related : List (List Char) → List (List Char) → Prop) : Prop where
  apart : ∀ word {words others}, related words others → related (word :: words) (word :: others)
  joined : ∀ c {words others}, words ≠ [] → others ≠ [] → related words others →
    related (joinFirst c words) (joinFirst c others)

theorem extends_sameButLast : Extends SameButLast where
  apart := by
    rintro word _ _ ⟨front, last, otherLast, rfl, rfl⟩
    exact ⟨word :: front, last, otherLast, rfl, rfl⟩
  joined := by
    rintro c _ _ - - ⟨front, last, otherLast, rfl, rfl⟩
    cases front with
    | nil => exact ⟨[], c :: last, c :: otherLast, rfl, rfl⟩
    | cons word front => exact ⟨(c :: word) :: front, last, otherLast, rfl, rfl⟩

/-- One word more than before. -/
def OneMore (words others : List (List Char)) : Prop :=
  others.length = words.length + 1

theorem length_joinFirst (c : Char) {words : List (List Char)} (some : words ≠ []) :
    (joinFirst c words).length = words.length := by
  cases words with
  | nil => exact absurd rfl some
  | cons word words => rfl

-- Numbers of words that differ by the same, whatever stands in front.
theorem extends_lengths (less more : Nat) :
    Extends fun words others => words.length + less = others.length + more where
  apart := by
    intro word words others same
    simp only [List.length_cons]
    omega
  joined := by
    intro c words others some otherSome same
    rw [length_joinFirst c some, length_joinFirst c otherSome, same]

theorem extends_oneMore : Extends OneMore where
  apart := fun word _ _ more => ((extends_lengths 1 0).apart word more.symm).symm
  joined := fun c _ _ some otherSome more =>
    ((extends_lengths 1 0).joined c some otherSome more.symm).symm

theorem extends_oneLess : Extends fun words others => OneMore others words :=
  extends_lengths 0 1

/-! ### Where words end -/

theorem wordsAsWritten_other {c : Char} (other : c.isAlphanum = false) (text : List Char) :
    wordsAsWritten (c :: text) = wordsAsWritten text := by
  rw [wordsAsWritten.eq_def]
  simp only [other, Bool.false_eq_true, ↓reduceIte]

theorem wordsAsWritten_single {c : Char} (alphanumeric : c.isAlphanum = true) :
    wordsAsWritten [c] = [[c]] := by
  rw [wordsAsWritten.eq_def]
  simp only [alphanumeric, ↓reduceIte]

-- Between two letters or digits, a word goes on or a word starts.
theorem wordsAsWritten_cons_cons {c d : Char} (alphanumeric : c.isAlphanum = true) (text : List Char) :
    wordsAsWritten (c :: d :: text) =
      if d.isAlphanum && !startsWord c d text.head? then joinFirst c (wordsAsWritten (d :: text))
      else [c] :: wordsAsWritten (d :: text) := by
  rw [wordsAsWritten.eq_def]
  simp only [alphanumeric, ↓reduceIte]

theorem wordsAsWritten_ne_nil {c : Char} (alphanumeric : c.isAlphanum = true) (text : List Char) :
    wordsAsWritten (c :: text) ≠ [] := by
  cases text with
  | nil => simp [wordsAsWritten_single alphanumeric]
  | cons d text =>
    rw [wordsAsWritten_cons_cons alphanumeric]
    split
    · cases wordsAsWritten (d :: text) <;> exact List.cons_ne_nil _ _
    · exact List.cons_ne_nil _ _

section
variable {related : List (List Char) → List (List Char) → Prop} (extending : Extends related)
  {c d : Char} {text other : List Char}
include extending

-- The character in front joins the first word of both texts, or of neither.
theorem Extends.cons (same : startsWord c d text.head? = startsWord c d other.head?)
    (holds : related (wordsAsWritten (d :: text)) (wordsAsWritten (d :: other))) :
    related (wordsAsWritten (c :: d :: text)) (wordsAsWritten (c :: d :: other)) := by
  cases alphanumeric : c.isAlphanum with
  | false => rwa [wordsAsWritten_other alphanumeric, wordsAsWritten_other alphanumeric]
  | true =>
    rw [wordsAsWritten_cons_cons alphanumeric, wordsAsWritten_cons_cons alphanumeric, same]
    split
    · rename_i joins
      have inside : d.isAlphanum = true := (Bool.and_eq_true_iff.mp joins).1
      exact extending.joined c (wordsAsWritten_ne_nil inside _) (wordsAsWritten_ne_nil inside _) holds
    · exact extending.apart [c] holds

theorem Extends.append {front : List Char}
    (same : ∀ before ∈ front.getLast?, startsWord before d text.head? = startsWord before d other.head?)
    (holds : related (wordsAsWritten (d :: text)) (wordsAsWritten (d :: other))) :
    related (wordsAsWritten (front ++ d :: text)) (wordsAsWritten (front ++ d :: other)) := by
  induction front with
  | nil => exact holds
  | cons first front ih =>
    cases front with
    | nil => exact extending.cons (same first rfl) holds
    | cons second front =>
      have further := ih same
      refine extending.cons ?_ further
      cases front <;> rfl

end

section
variable {c d : Char} {text : List Char} {next other : Option Char}

theorem isAlpha_eq (c : Char) : c.isAlpha = (c.isUpper || c.isLower) :=
  rfl

theorem isUpper_eq_decide (c : Char) : c.isUpper = decide (c.val ≥ 'A'.val ∧ c.val ≤ 'Z'.val) :=
  rfl

theorem isLower_eq_decide (c : Char) : c.isLower = (decide (c.val ≥ 'a'.val) && decide (c.val ≤ 'z'.val)) :=
  rfl

theorem not_isDigit_of_isAlpha (letter : c.isAlpha = true) : c.isDigit = false := by
  simp only [isAlpha_eq, isLower_eq_decide, isUpper_eq_decide, Char.isDigit, Bool.or_eq_true, Bool.and_eq_true,
    Bool.and_eq_false_iff, decide_eq_true_eq, decide_eq_false_iff_not, UInt32.le_iff_toNat_le,
    ge_iff_le] at letter ⊢
  have bounds : 'A'.val.toNat = 65 ∧ 'Z'.val.toNat = 90 ∧ 'a'.val.toNat = 97 ∧ 'z'.val.toNat = 122 ∧
      '0'.val.toNat = 48 ∧ '9'.val.toNat = 57 := by decide
  omega

theorem not_isUpper_of_isLower (small : c.isLower = true) : c.isUpper = false := by
  simp only [isLower_eq_decide, isUpper_eq_decide, Bool.and_eq_true, decide_eq_true_eq, decide_eq_false_iff_not,
    UInt32.le_iff_toNat_le, ge_iff_le] at small ⊢
  have bounds : 'A'.val.toNat = 65 ∧ 'Z'.val.toNat = 90 ∧ 'a'.val.toNat = 97 ∧ 'z'.val.toNat = 122 := by
    decide
  omega

theorem not_isLower_of_isUpper (capital : c.isUpper = true) : c.isLower = false := by
  cases small : c.isLower with
  | false => rfl
  | true =>
    rw [not_isUpper_of_isLower small] at capital
    cases capital

-- Only in a run of capitals does the next character matter.
theorem startsWord_congr (apart : d.isUpper = true → c.isUpper = false) :
    startsWord c d next = startsWord c d other := by
  unfold startsWord
  cases capital : d.isUpper with
  | false => rfl
  | true => simp only [apart capital, Bool.not_false, Bool.true_or]

theorem startsWord_small (small : d.isLower = true) : startsWord c d next = c.isDigit := by
  have digit : d.isDigit = false := not_isDigit_of_isAlpha (by simp [isAlpha_eq, small])
  simp only [startsWord, digit, not_isUpper_of_isLower small, Bool.false_eq_true, ↓reduceIte]
  cases c.isDigit <;> rfl

theorem startsWord_capital (capital : d.isUpper = true) :
    startsWord c d next = (!c.isUpper || next.any Char.isLower) := by
  have digit : d.isDigit = false := not_isDigit_of_isAlpha (by simp [isAlpha_eq, capital])
  simp only [startsWord, digit, capital, Bool.false_eq_true, ↓reduceIte]
  cases figure : c.isDigit with
  | false => rfl
  | true =>
    have noCapital : c.isUpper = false := by
      cases upper : c.isUpper with
      | false => rfl
      | true =>
        have letter := not_isDigit_of_isAlpha (c := c) (by simp [isAlpha_eq, upper])
        rw [figure] at letter
        cases letter
    simp [noCapital]

/-- A text that is one word. -/
def IsOneWord (text : List Char) : Prop :=
  wordsAsWritten text = [text]

theorem IsOneWord.cons (word : IsOneWord (d :: text)) (alphanumeric : c.isAlphanum = true)
    (inside : d.isAlphanum = true) (joins : startsWord c d text.head? = false) :
    IsOneWord (c :: d :: text) := by
  rw [IsOneWord, wordsAsWritten_cons_cons alphanumeric, inside, joins, word]
  rfl

theorem IsOneWord.after (word : IsOneWord (d :: text))
    (starts : c.isAlphanum = true → startsWord c d text.head? = true) :
    wordsAsWritten (c :: d :: text) = wordsAsWritten [c] ++ [d :: text] := by
  cases alphanumeric : c.isAlphanum with
  | false => rw [wordsAsWritten_other alphanumeric, wordsAsWritten_other alphanumeric, word]; rfl
  | true =>
    rw [wordsAsWritten_cons_cons alphanumeric, wordsAsWritten_single alphanumeric,
      starts alphanumeric, word]
    simp

-- Characters of a kind that go on with each other are one word.
theorem isOneWord_of_kind {kind : Char → Bool} (alphanumeric : ∀ c, kind c = true → c.isAlphanum = true)
    (joins : ∀ c d, kind c = true → kind d = true → ∀ next : Option Char, (∀ e ∈ next, kind e = true) →
      startsWord c d next = false)
    (some : text ≠ []) (all : ∀ c ∈ text, kind c = true) : IsOneWord text := by
  induction text with
  | nil => exact absurd rfl some
  | cons c text ih =>
    obtain ⟨first, others⟩ := List.forall_mem_cons.mp all
    cases text with
    | nil => exact wordsAsWritten_single (alphanumeric c first)
    | cons d text =>
      have word := ih (List.cons_ne_nil d text) others
      obtain ⟨second, further⟩ := List.forall_mem_cons.mp others
      exact word.cons (alphanumeric c first) (alphanumeric d second)
        (joins c d first second _ fun e member => further e (List.mem_of_mem_head? member))

theorem isOneWord_small (some : text ≠ []) (small : ∀ c ∈ text, c.isLower = true) : IsOneWord text := by
  refine isOneWord_of_kind (fun c low => by simp [Char.isAlphanum, isAlpha_eq, low]) ?_ some small
  intro c d low lowNext next _
  rw [startsWord_small lowNext]
  exact not_isDigit_of_isAlpha (by simp [isAlpha_eq, low])

theorem isOneWord_capitals (some : text ≠ []) (capitals : ∀ c ∈ text, c.isUpper = true) :
    IsOneWord text := by
  refine isOneWord_of_kind (fun c capital => by simp [Char.isAlphanum, isAlpha_eq, capital]) ?_ some capitals
  intro c d capital capitalNext next further
  rw [startsWord_capital capitalNext, capital]
  cases next with
  | none => rfl
  | some e => simpa using not_isLower_of_isUpper (further e rfl)

end

/-! ### Endings -/

/-- Whether a text ends with a capital. -/
def endsCapital (text : List Char) : Bool :=
  text.getLast?.any Char.isUpper

/-- Whether small letters go on with the last word of a text: after a small letter, and after a capital
with no capital in front of it. -/
def goesOn (text : List Char) : Bool :=
  text.getLast?.any Char.isLower || (endsCapital text && !endsCapital text.dropLast)

theorem endsCapital_concat (front : List Char) (c : Char) : endsCapital (front ++ [c]) = c.isUpper := by
  simp [endsCapital]

theorem goesOn_concat (front : List Char) (c : Char) :
    goesOn (front ++ [c]) = (c.isLower || (c.isUpper && !endsCapital front)) := by
  simp [goesOn, endsCapital]

section
variable {c : Char} {front text ending other : List Char}

theorem isUpper_of_mem_getLast? {before : Char} (last : before ∈ front.getLast?) :
    before.isUpper = endsCapital front := by
  rw [endsCapital, Option.mem_def.mp last]
  rfl

theorem exists_of_endsCapital (capital : endsCapital front = true) :
    ∃ first before, front = first ++ [before] ∧ before.isUpper = true := by
  rcases List.eq_nil_or_concat' front with rfl | ⟨first, before, rfl⟩
  · cases capital
  · exact ⟨first, before, rfl, by rwa [endsCapital_concat] at capital⟩

theorem startsWord_before_letter (apart : c.isUpper = true → endsCapital front = false)
    (next other : Option Char) :
    ∀ before ∈ front.getLast?, startsWord before c next = startsWord before c other :=
  fun _ last => startsWord_congr fun capital => (isUpper_of_mem_getLast? last).trans (apart capital)

/-- Small letters, at least one. -/
structure IsSmall (text : List Char) : Prop where
  some : text ≠ []
  small : ∀ c ∈ text, c.isLower = true

theorem IsSmall.exists_cons (small : IsSmall ending) :
    ∃ e rest, ending = e :: rest ∧ e.isLower = true := by
  obtain ⟨e, rest, rfl⟩ := List.exists_cons_of_ne_nil small.some
  exact ⟨e, rest, rfl, small.small e List.mem_cons_self⟩

theorem IsSmall.isOneWord (small : IsSmall ending) : IsOneWord ending :=
  isOneWord_small small.some small.small

-- After a letter, small letters go on with its word.
theorem IsSmall.isOneWord_cons (small : IsSmall ending) (letter : c.isAlpha = true) :
    IsOneWord (c :: ending) := by
  obtain ⟨e, rest, rfl, smallFirst⟩ := small.exists_cons
  refine small.isOneWord.cons (by simp [Char.isAlphanum, letter])
    (by simp [Char.isAlphanum, isAlpha_eq, smallFirst]) ?_
  rw [startsWord_small smallFirst]
  exact not_isDigit_of_isAlpha letter

-- After anything else, they are a word of their own.
theorem IsSmall.after (small : IsSmall ending) (noLetter : c.isAlpha = false) :
    wordsAsWritten (c :: ending) = wordsAsWritten [c] ++ [ending] := by
  obtain ⟨e, rest, rfl, smallFirst⟩ := small.exists_cons
  refine small.isOneWord.after fun alphanumeric => ?_
  rw [startsWord_small smallFirst]
  simpa [Char.isAlphanum, noLetter] using alphanumeric

theorem sameButLast_append_small (small : IsSmall ending) (goes : goesOn text = true) :
    SameButLast (wordsAsWritten text) (wordsAsWritten (text ++ ending)) := by
  rcases List.eq_nil_or_concat' text with rfl | ⟨front, c, rfl⟩
  · cases goes
  · rw [goesOn_concat, Bool.or_eq_true, Bool.and_eq_true, Bool.not_eq_true'] at goes
    have letter : c.isAlpha = true := by
      rw [isAlpha_eq, Bool.or_eq_true]
      exact goes.symm.imp_left And.left
    have apart : c.isUpper = true → endsCapital front = false := by
      intro capital
      rcases goes with low | ⟨-, alone⟩
      · rw [not_isUpper_of_isLower low] at capital
        cases capital
      · exact alone
    rw [List.append_assoc, List.singleton_append]
    refine extends_sameButLast.append (startsWord_before_letter apart _ _) ?_
    rw [wordsAsWritten_single (by simp [Char.isAlphanum, letter]), small.isOneWord_cons letter]
    exact ⟨[], _, _, rfl, rfl⟩

-- The last capital of a run goes with the small letters.
theorem IsSmall.after_capital (small : IsSmall ending) {before : Char} (first : before.isUpper = true)
    (second : c.isUpper = true) :
    wordsAsWritten (before :: c :: ending) = [[before], c :: ending] := by
  have letter : c.isAlpha = true := by simp [isAlpha_eq, second]
  obtain ⟨e, rest, rfl, smallFirst⟩ := small.exists_cons
  rw [(small.isOneWord_cons letter).after fun _ => by simp [startsWord_capital second, smallFirst],
    wordsAsWritten_single (by simp [Char.isAlphanum, isAlpha_eq, first])]
  rfl

theorem oneMore_append_small (small : IsSmall ending) (stops : goesOn text = false) :
    OneMore (wordsAsWritten text) (wordsAsWritten (text ++ ending)) := by
  rcases List.eq_nil_or_concat' text with rfl | ⟨front, c, rfl⟩
  · rw [List.nil_append, small.isOneWord]
    rfl
  · rw [goesOn_concat, Bool.or_eq_false_iff] at stops
    obtain ⟨noSmall, alone⟩ := stops
    rw [List.append_assoc, List.singleton_append]
    cases capital : c.isUpper with
    | false =>
      have noLetter : c.isAlpha = false := by simp [isAlpha_eq, noSmall, capital]
      refine extends_oneMore.append (startsWord_before_letter (by simp [capital]) _ _) ?_
      rw [small.after noLetter, OneMore, List.length_append]
      rfl
    | true =>
      rw [capital, Bool.true_and, Bool.not_eq_false'] at alone
      obtain ⟨first, before, rfl, run⟩ := exists_of_endsCapital alone
      rw [List.append_assoc, List.append_assoc, List.singleton_append, List.singleton_append]
      refine extends_oneMore.append (fun _ _ => rfl) ?_
      rw [small.after_capital run capital, isOneWord_capitals (by simp) (by simp [run, capital])]
      rfl

-- Which small letters follow is the same to the words in front of them.
theorem sameButLast_of_small (small : IsSmall ending) (otherSmall : IsSmall other) (text : List Char) :
    SameButLast (wordsAsWritten (text ++ ending)) (wordsAsWritten (text ++ other)) := by
  rcases List.eq_nil_or_concat' text with rfl | ⟨front, c, rfl⟩
  · rw [List.nil_append, List.nil_append, small.isOneWord, otherSmall.isOneWord]
    exact ⟨[], _, _, rfl, rfl⟩
  · rw [List.append_assoc, List.append_assoc, List.singleton_append, List.singleton_append]
    apply extends_sameButLast.append
    · obtain ⟨e, rest, rfl, first⟩ := small.exists_cons
      obtain ⟨d, others, rfl, otherFirst⟩ := otherSmall.exists_cons
      intro before _
      simp only [startsWord, List.head?_cons, Option.any_some, first, otherFirst]
    · cases letter : c.isAlpha with
      | false =>
        rw [small.after letter, otherSmall.after letter]
        exact ⟨_, _, _, rfl, rfl⟩
      | true =>
        rw [small.isOneWord_cons letter, otherSmall.isOneWord_cons letter]
        exact ⟨[], _, _, rfl, rfl⟩

/-! A capital at the end goes on with a capital in front of it, and starts a word otherwise. -/

theorem after_no_capital {last : Char} (capital : last.isUpper = true) (noCapital : c.isUpper = false) :
    wordsAsWritten [c, last] = wordsAsWritten [c] ++ [[last]] := by
  have word : IsOneWord [last] := isOneWord_capitals (by simp) (by simp [capital])
  exact word.after fun _ => by simp [startsWord_capital capital, noCapital]

theorem sameButLast_of_capital (small : IsSmall ending) {last : Char} (capital : last.isUpper = true)
    (agree : goesOn text = endsCapital text) :
    SameButLast (wordsAsWritten (text ++ [last])) (wordsAsWritten (text ++ ending)) := by
  have alone : IsOneWord [last] := isOneWord_capitals (by simp) (by simp [capital])
  rcases List.eq_nil_or_concat' text with rfl | ⟨front, c, rfl⟩
  · rw [List.nil_append, List.nil_append, alone, small.isOneWord]
    exact ⟨[], _, _, rfl, rfl⟩
  · rw [goesOn_concat, endsCapital_concat] at agree
    rw [List.append_assoc, List.append_assoc, List.singleton_append, List.singleton_append]
    cases upper : c.isUpper with
    | false =>
      have noLetter : c.isAlpha = false := by
        rw [upper, Bool.false_and, Bool.or_false] at agree
        simp [isAlpha_eq, upper, agree]
      refine extends_sameButLast.append (startsWord_before_letter (by simp [upper]) _ _) ?_
      rw [after_no_capital capital upper, small.after noLetter]
      exact ⟨_, _, _, rfl, rfl⟩
    | true =>
      have apart : endsCapital front = false := by
        simpa [upper, not_isLower_of_isUpper upper] using agree
      refine extends_sameButLast.append (startsWord_before_letter (fun _ => apart) _ _) ?_
      rw [isOneWord_capitals (by simp) (by simp [upper, capital]),
        small.isOneWord_cons (by simp [isAlpha_eq, upper])]
      exact ⟨[], _, _, rfl, rfl⟩

theorem oneMore_of_capital (small : IsSmall ending) {last : Char} (capital : last.isUpper = true)
    (differ : goesOn text ≠ endsCapital text) :
    OneMore (wordsAsWritten (text ++ [last])) (wordsAsWritten (text ++ ending)) ∨
      OneMore (wordsAsWritten (text ++ ending)) (wordsAsWritten (text ++ [last])) := by
  rcases List.eq_nil_or_concat' text with rfl | ⟨front, c, rfl⟩
  · exact absurd rfl differ
  · rw [goesOn_concat, endsCapital_concat] at differ
    rw [List.append_assoc, List.append_assoc, List.singleton_append, List.singleton_append]
    cases upper : c.isUpper with
    | false =>
      have letter : c.isAlpha = true := by
        rw [upper, Bool.false_and, Bool.or_false] at differ
        simpa [isAlpha_eq, upper] using differ
      refine .inr (extends_oneLess.append (startsWord_before_letter (by simp [upper]) _ _) ?_)
      rw [after_no_capital capital upper, small.isOneWord_cons letter,
        wordsAsWritten_single (by simp [Char.isAlphanum, letter])]
      rfl
    | true =>
      have run : endsCapital front = true := by
        simpa [upper, not_isLower_of_isUpper upper] using differ
      obtain ⟨first, before, rfl, beforeUpper⟩ := exists_of_endsCapital run
      rw [List.append_assoc, List.append_assoc, List.singleton_append, List.singleton_append]
      refine .inl (extends_oneMore.append (fun _ _ => rfl) ?_)
      rw [small.after_capital beforeUpper upper,
        isOneWord_capitals (by simp) (by simp [beforeUpper, upper, capital])]
      rfl

end

end PrismaNest.Naming
