/-! Tables of code points as ascending ranges.

A character class is a list of closed ranges in ascending order. Membership
stops at the first range that starts beyond the code point, so characters at the
front of the alphabet are decided at once.
-/

set_option autoImplicit false

namespace PrismaNest.Text

/-- Membership in a class given by ascending closed ranges. -/
def inRanges : List (Nat × Nat) → Nat → Bool
  | [], _ => false
  | (first, last) :: rest, code =>
    if code < first then false
    else if code ≤ last then true
    else inRanges rest code

theorem exists_range_of_inRanges {ranges : List (Nat × Nat)} {code : Nat}
    (member : inRanges ranges code = true) :
    ∃ range ∈ ranges, range.1 ≤ code ∧ code ≤ range.2 := by
  induction ranges with
  | nil => simp [inRanges] at member
  | cons range rest ih =>
    obtain ⟨first, last⟩ := range
    unfold inRanges at member
    split at member
    · simp at member
    · rename_i notBefore
      split at member
      · rename_i within
        exact ⟨(first, last), by simp, Nat.le_of_not_lt notBefore, within⟩
      · obtain ⟨range, included, bounds⟩ := ih member
        exact ⟨range, by simp [included], bounds⟩

end PrismaNest.Text
