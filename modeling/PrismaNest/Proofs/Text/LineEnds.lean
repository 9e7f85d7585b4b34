import PrismaNest.Proofs.Text.Absence
import PrismaNest.Text.Lines

/-! Line ends of a text.

Reading a file amounts to two replacements: first a line feed for each carriage return with a line feed
behind it, then one for each carriage return that is left. A text whose line feeds have been written in
another of the usual ways is read as it was.
-/

set_option autoImplicit false

namespace PrismaNest.Text

/-- A text with one line feed for each carriage return that a line feed follows, together with it. -/
def joinPairs : List Char → List Char
  | [] => []
  | '\r' :: '\n' :: rest => '\n' :: joinPairs rest
  | c :: rest => c :: joinPairs rest

/-- A text with a line feed for each carriage return. -/
def feedsForReturns (text : List Char) : List Char :=
  text.map fun c => if c = '\r' then '\n' else c

theorem normalizeLineEnds_eq (text : List Char) :
    normalizeLineEnds text = feedsForReturns (joinPairs text) := by
  fun_induction normalizeLineEnds text with
  | case1 => rfl
  | case2 rest ih =>
    rw [joinPairs, ih]
    rfl
  | case3 c rest alone ih =>
    rw [joinPairs, ih]
    · rfl
    · exact alone

/-- The usual ways to end a line. -/
def lineEnds : List (List Char) :=
  [['\n'], ['\r', '\n'], ['\r']]

/-- A text with its lines ended in some way. -/
def withLineEnds (ending text : List Char) : List Char :=
  text.flatMap fun c => if c = '\n' then ending else [c]

-- Only a carriage return is read together with what follows it.
theorem normalizeLineEnds_cons {c : Char} (plain : c ≠ '\r') (rest : List Char) :
    normalizeLineEnds (c :: rest) = c :: normalizeLineEnds rest := by
  rw [normalizeLineEnds, if_neg plain]
  rintro _ rfl
  exact absurd rfl plain

theorem normalizeLineEnds_return {rest : List Char} (alone : rest.head? ≠ some '\n') :
    normalizeLineEnds ('\r' :: rest) = '\n' :: normalizeLineEnds rest := by
  rw [normalizeLineEnds, if_pos rfl]
  rintro more - rfl
  exact alone rfl

-- Where lines end in carriage returns, no line feed is left.
theorem feed_not_mem_withLineEnds (text : List Char) : '\n' ∉ withLineEnds ['\r'] text := by
  intro member
  obtain ⟨c, -, inside⟩ := List.mem_flatMap.mp member
  split at inside
  · exact absurd inside (by decide)
  · rename_i other
    exact other (List.mem_singleton.mp inside).symm

theorem normalizeLineEnds_ending {ending : List Char} (usual : ending ∈ lineEnds) (text : List Char) :
    normalizeLineEnds (ending ++ withLineEnds ending text) =
      '\n' :: normalizeLineEnds (withLineEnds ending text) := by
  simp only [lineEnds, List.mem_cons, List.not_mem_nil, or_false] at usual
  obtain rfl | rfl | rfl := usual
  · exact normalizeLineEnds_cons (by decide) _
  · rfl
  · exact normalizeLineEnds_return fun feed =>
      feed_not_mem_withLineEnds text (List.mem_of_head? feed)

theorem normalizeLineEnds_withLineEnds {ending text : List Char} (usual : ending ∈ lineEnds)
    (plain : '\r' ∉ text) : normalizeLineEnds (withLineEnds ending text) = text := by
  induction text with
  | nil => rfl
  | cons c text ih =>
    obtain ⟨first, others⟩ := not_or.mp (mt List.mem_cons.mpr plain)
    rw [withLineEnds, List.flatMap_cons]
    split
    · rename_i feed
      rw [feed]
      exact (normalizeLineEnds_ending usual text).trans (congrArg _ (ih others))
    · exact (normalizeLineEnds_cons (Ne.symm first) _).trans (congrArg _ (ih others))

end PrismaNest.Text
