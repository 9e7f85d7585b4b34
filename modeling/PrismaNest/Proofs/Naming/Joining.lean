import Mathlib.Data.List.Chain
import PrismaNest.Proofs.Naming.Division

/-! Words that are joined.

A text that is put together from words has these words again if each of them ends where the next one
starts. Where one does not, the two are taken for one word, and no other place makes up for it: no word
but the first starts with a small letter, so none is cut in two by what stands around it.
-/

set_option autoImplicit false

namespace PrismaNest.Naming

section
variable {text : List Char}

theorem IsOneWord.ne_nil (word : IsOneWord text) : text ≠ [] :=
  ne_nil_of_mem_wordsAsWritten (by rw [word]; exact List.mem_singleton_self text)

theorem IsOneWord.isAlphanum (word : IsOneWord text) : ∀ c ∈ text, c.isAlphanum = true :=
  isAlphanum_of_mem_wordsAsWritten (by rw [word]; exact List.mem_singleton_self text)

end

/-- A word that ends where another one starts. -/
def EndsBefore (word next : List Char) : Prop :=
  ∀ c ∈ word.getLast?, endsWord c next = true

theorem endsBefore_iff {word front next : List Char} {c : Char} (written : word = front ++ [c]) :
    EndsBefore word next ↔ endsWord c next = true := by
  simp [EndsBefore, written]

/-- Words of which none but the first starts with a small letter. -/
structure Joinable (pieces : List (List Char)) : Prop where
  words : ∀ piece ∈ pieces, IsOneWord piece
  starts : ∀ piece ∈ pieces.tail, ∀ c ∈ piece.head?, c.isLower = false

-- Of what follows a word, only the next character matters, and only if it is a small letter.
theorem endsWord_append {c : Char} {next rest : List Char} (some : next ≠ [])
    (starts : rest.head?.any Char.isLower = false) : endsWord c (next ++ rest) = endsWord c next := by
  obtain ⟨d, after, rfl⟩ := List.exists_cons_of_ne_nil some
  cases after with
  | nil =>
    rw [List.cons_append, List.nil_append]
    simp only [endsWord, startsWord, starts, List.head?_nil, Option.any_none]
  | cons e after => rfl

theorem not_isLower_head?_flatten {pieces : List (List Char)}
    (starts : ∀ piece ∈ pieces, ∀ c ∈ piece.head?, c.isLower = false) :
    pieces.flatten.head?.any Char.isLower = false := by
  induction pieces with
  | nil => rfl
  | cons piece pieces ih =>
    obtain ⟨first, others⟩ := List.forall_mem_cons.mp starts
    cases piece with
    | nil => exact ih others
    | cons c piece => exact first c rfl

-- Where no word ends, the words on both sides are one.
theorem length_wordsAsWritten_join {c d : Char} {after : List Char} (noSmall : d.isLower = false)
    (joins : endsWord c (d :: after) = false) (front : List Char) :
    (wordsAsWritten (front ++ c :: d :: after)).length + 1 =
      (wordsAsWritten (front ++ [c])).length + (wordsAsWritten (d :: after)).length := by
  obtain ⟨⟨alphanumeric, inside⟩, goes⟩ : (c.isAlphanum = true ∧ d.isAlphanum = true) ∧
      startsWord c d after.head? = false := by
    simpa [endsWord] using joins
  apply (extends_lengths 1 _).append
  · intro before _
    simp only [startsWord, List.head?_cons, List.head?_nil, Option.any_some, Option.any_none, noSmall]
  · rw [wordsAsWritten_cons_cons alphanumeric, wordsAsWritten_single alphanumeric, inside, goes]
    simp only [Bool.not_false, Bool.and_self, ↓reduceIte]
    rw [length_joinFirst c (wordsAsWritten_ne_nil inside after), List.length_singleton, Nat.add_comm]

section
variable {piece second : List Char} {rest : List (List Char)}

theorem Joinable.tail (joinable : Joinable (piece :: rest)) : Joinable rest where
  words := fun word member => joinable.words word (List.mem_cons_of_mem _ member)
  starts := fun word member => joinable.starts word (List.mem_of_mem_tail member)

variable (joinable : Joinable (piece :: second :: rest))
include joinable

-- The first word stands for itself, or it is one with the second.
theorem Joinable.flatten_cons_cons :
    (EndsBefore piece second ∧
      wordsAsWritten (piece :: second :: rest).flatten = piece :: wordsAsWritten (second :: rest).flatten) ∨
    (¬ EndsBefore piece second ∧
      (wordsAsWritten (piece :: second :: rest).flatten).length =
        (wordsAsWritten (second :: rest).flatten).length) := by
  have whole : IsOneWord piece := joinable.words piece List.mem_cons_self
  have next : IsOneWord second := joinable.words second (by simp)
  have follows : rest.flatten.head?.any Char.isLower = false :=
    not_isLower_head?_flatten fun word member => joinable.starts word (List.mem_cons_of_mem _ member)
  obtain ⟨front, c, rfl⟩ := (List.eq_nil_or_concat' piece).resolve_left whole.ne_nil
  have here : endsWord c (second ++ rest.flatten) = endsWord c second := endsWord_append next.ne_nil follows
  rw [endsBefore_iff rfl, List.flatten_cons, List.flatten_cons, List.append_assoc, List.singleton_append]
  cases ends : endsWord c second with
  | true =>
    refine .inl ⟨rfl, ?_⟩
    rw [wordsAsWritten_cut (here.trans ends), whole]
    rfl
  | false =>
    refine .inr ⟨Bool.false_ne_true, ?_⟩
    obtain ⟨d, after, rfl⟩ := List.exists_cons_of_ne_nil next.ne_nil
    have noSmall : d.isLower = false := joinable.starts (d :: after) (by simp) d rfl
    have joined := length_wordsAsWritten_join noSmall (here.trans ends) front
    rw [whole, List.length_singleton] at joined
    exact Nat.add_right_cancel (joined.trans (Nat.add_comm _ _))

end

-- Joined words are found again, or fewer words are found.
theorem Joinable.flatten {pieces : List (List Char)} (joinable : Joinable pieces) :
    (pieces.IsChain EndsBefore ∧ wordsAsWritten pieces.flatten = pieces) ∨
      (¬ pieces.IsChain EndsBefore ∧ (wordsAsWritten pieces.flatten).length < pieces.length) := by
  induction pieces with
  | nil => exact .inl ⟨.nil, rfl⟩
  | cons piece pieces ih =>
    cases pieces with
    | nil =>
      refine .inl ⟨.singleton piece, ?_⟩
      rw [List.flatten_cons, List.flatten_nil, List.append_nil]
      exact joinable.words piece List.mem_cons_self
    | cons second rest =>
      rw [List.isChain_cons_cons]
      rcases joinable.flatten_cons_cons with ⟨ends, split⟩ | ⟨joins, fewer⟩
      · rw [split]
        rcases ih joinable.tail with ⟨chain, found⟩ | ⟨broken, short⟩
        · exact .inl ⟨⟨ends, chain⟩, by rw [found]⟩
        · exact .inr ⟨fun both => broken both.2, Nat.succ_lt_succ short⟩
      · refine .inr ⟨fun both => joins both.1, ?_⟩
        rw [fewer]
        rcases ih joinable.tail with ⟨-, found⟩ | ⟨-, short⟩
        · rw [found]
          exact Nat.lt_succ_self _
        · exact Nat.lt_succ_of_lt short

theorem Joinable.map_wordsAsWritten_iff {pieces : List (List Char)} (joinable : Joinable pieces)
    {α : Type} (f : List Char → α) :
    (wordsAsWritten pieces.flatten).map f = pieces.map f ↔ pieces.IsChain EndsBefore := by
  rcases joinable.flatten with ⟨chain, found⟩ | ⟨broken, short⟩
  · rw [found]
    exact iff_of_true rfl chain
  · refine iff_of_false (fun same => ?_) broken
    have lengths := congrArg List.length same
    rw [List.length_map, List.length_map] at lengths
    omega

-- Words that are kept apart need not fit together.
theorem wordsAsWritten_intercalate {separator : Char} (other : separator.isAlphanum = false)
    {pieces : List (List Char)} (words : ∀ piece ∈ pieces, IsOneWord piece) :
    wordsAsWritten ([separator].intercalate pieces) = pieces := by
  induction pieces with
  | nil => rfl
  | cons piece pieces ih =>
    obtain ⟨first, others⟩ := List.forall_mem_cons.mp words
    cases pieces with
    | nil =>
      rw [List.intercalate_singleton]
      exact first
    | cons second pieces =>
      rw [List.intercalate_cons_cons, List.append_assoc, List.singleton_append,
        wordsAsWritten_append_other other, first, ih others]
      rfl

end PrismaNest.Naming
