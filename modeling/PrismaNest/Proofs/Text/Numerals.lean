import Mathlib.Algebra.Group.Nat.Defs
import PrismaNest.Proofs.Text.Lowering
import PrismaNest.Proofs.Text.Runs
import PrismaNest.Text.DecimalDigit
import PrismaNest.Text.Lines

/-! Digits, and the characters of numerals.

If a run of characters denotes a number, then each of them is a digit, and the number is below the
power of the base with as many digits. A text of digits, points, signs and exponent marks has no
blanks to trim, no digits of other scripts and no line ends. In lower case only the mark of an
exponent differs.
-/

set_option autoImplicit false

namespace PrismaNest.Text

/-! ### Digits of a base -/

section
variable {base value : Nat} {c : Char}

theorem of_digitsValue? {digits : List Char} (read : digitsValue? base digits = some value) :
    value < base ^ digits.length ∧ ∀ c ∈ digits, (digitValue? base c).isSome = true := by
  have step : ∀ (digits : List Char) (total : Nat),
      digits.foldlM (fun total c => (digitValue? base c).map (total * base + ·)) total =
        some value → value < (total + 1) * base ^ digits.length ∧
          ∀ c ∈ digits, (digitValue? base c).isSome = true := by
    intro digits
    induction digits with
    | nil =>
      intro total read
      cases read
      exact ⟨by simp, nofun⟩
    | cons c digits ih =>
      intro total read
      rw [List.foldlM_cons] at read
      obtain ⟨next, found, read⟩ := Option.bind_eq_some_iff.mp read
      obtain ⟨digit, isDigit, rfl⟩ := Option.map_eq_some_iff.mp found
      have small := digitValue?_lt isDigit
      obtain ⟨bound, others⟩ := ih _ read
      refine ⟨?_, List.forall_mem_cons.mpr ⟨Option.isSome_iff_exists.mpr ⟨digit, isDigit⟩, others⟩⟩
      calc value < (total * base + digit + 1) * base ^ digits.length := bound
        _ ≤ ((total + 1) * base) * base ^ digits.length :=
          Nat.mul_le_mul_right _ (by rw [Nat.add_mul, Nat.one_mul]; omega)
        _ = (total + 1) * base ^ (c :: digits).length := by
          rw [List.length_cons, Nat.pow_succ, Nat.mul_assoc, Nat.mul_comm base]
  obtain ⟨bound, all⟩ := step digits 0 read
  exact ⟨by simpa using bound, all⟩

theorem printable_of_digitValue? (digit : (digitValue? 16 c).isSome = true) :
    0x20 ≤ c.toNat ∧ c.toNat ≤ 0x7E := by
  have ranges : ('0' ≤ c ∧ c ≤ '9') ∨ ('a' ≤ c ∧ c ≤ 'f') ∨ ('A' ≤ c ∧ c ≤ 'F') := by
    refine Decidable.byContradiction fun other => ?_
    obtain ⟨noDigit, noSmall, noCapital⟩ : _ ∧ _ ∧ _ := by simpa only [not_or] using other
    simp [digitValue?, noDigit, noSmall, noCapital] at digit
  have bounds : ∀ low high : Char, 0x20 ≤ low.toNat → high.toNat ≤ 0x7E → low ≤ c ∧ c ≤ high →
      0x20 ≤ c.toNat ∧ c.toNat ≤ 0x7E :=
    fun low high least greatest range =>
      ⟨Nat.le_trans least range.1, Nat.le_trans range.2 greatest⟩
  rcases ranges with range | range | range
  · exact bounds '0' '9' (by decide) (by decide) range
  · exact bounds 'a' 'f' (by decide) (by decide) range
  · exact bounds 'A' 'F' (by decide) (by decide) range

end

/-! ### Numerals -/

/-- The characters that numerals are written with. -/
def numberChars : List Char :=
  "0123456789.+-eE".toList

/-- A text of such characters. -/
def IsNumeric (text : List Char) : Prop :=
  ∀ c ∈ text, c ∈ numberChars

theorem mem_digits_of_isDigit {c : Char} (digit : c.isDigit = true) : c ∈ "0123456789".toList := by
  have listed : ∀ code ∈ List.range' 48 10, Char.ofNat code ∈ "0123456789".toList := by decide
  have bounds : 48 ≤ c.toNat ∧ c.toNat ≤ 57 := by
    simpa [Char.isDigit, UInt32.le_iff_toNat_le] using digit
  rw [← Char.ofNat_toNat c]
  apply listed
  rw [List.mem_range'_1]
  omega

theorem lowerFrom_eq_map {text : List Char} (plain : ∀ c ∈ text, c ≠ 'Σ' ∧ c ≠ 'İ')
    (before : List Char) : lowerFrom before text = text.map lowerLetter := by
  induction text generalizing before with
  | nil => rfl
  | cons c text ih =>
    obtain ⟨⟨noSigma, noDot⟩, others⟩ := List.forall_mem_cons.mp plain
    rw [lowerFrom, lowerChar, if_neg noSigma, if_neg noDot, ih others]
    rfl

theorem map_lowerLetter_of_isDigit {digits : List Char} (all : ∀ c ∈ digits, c.isDigit = true) :
    digits.map lowerLetter = digits := by
  have fixed : ("0123456789".toList.all fun c => lowerLetter c == c) = true := by decide
  refine (List.map_congr_left fun c member => ?_).trans digits.map_id
  exact eq_of_beq (List.all_eq_true.mp fixed c (mem_digits_of_isDigit (all c member)))

namespace IsNumeric

variable {text : List Char}

theorem of_isDigit (all : ∀ c ∈ text, c.isDigit = true) : IsNumeric text :=
  fun c member => List.mem_append_left ".+-eE".toList (mem_digits_of_isDigit (all c member))

theorem append {front : List Char} (first : IsNumeric front) (second : IsNumeric text) :
    IsNumeric (front ++ text) :=
  List.forall_mem_append.mpr ⟨first, second⟩

theorem cons {c : Char} (first : c ∈ numberChars) (others : IsNumeric text) :
    IsNumeric (c :: text) :=
  List.forall_mem_cons.mpr ⟨first, others⟩

variable (numeric : IsNumeric text)
include numeric

theorem all {p : Char → Bool} (holds : numberChars.all p = true) : ∀ c ∈ text, p c = true :=
  fun c member => List.all_eq_true.mp holds c (numeric c member)

theorem map_asciiDigit : text.map asciiDigit = text := by
  have fixed := @all _ numeric (fun c => asciiDigit c == c) (by decide)
  exact (List.map_congr_left fun c member => eq_of_beq (fixed c member)).trans text.map_id

theorem trim : Text.trim text = text := by
  have inside : ∀ c ∈ text, isBlank c = false := by
    simpa using @all _ numeric (fun c => !isBlank c) (by decide)
  have start : StartsOutside isBlank text := fun c first => inside c (List.mem_of_head? first)
  have ending := (endsOutside_of_forall inside).reverse
  rw [Text.trim, trimBy, dropWhile_of_startsOutside start, dropWhile_of_startsOutside ending,
    List.reverse_reverse]

theorem withoutLastBreak : Text.withoutLastBreak text = text := by
  have inside : ∀ c ∈ text, c ≠ '\n' := by
    simpa using @all _ numeric (fun c => c ≠ '\n') (by decide)
  rw [Text.withoutLastBreak, if_neg]
  intro last
  exact inside '\n' (List.mem_of_getLast? (eq_of_beq last)) rfl

theorem filter_underscore : text.filter (· ≠ '_') = text :=
  List.filter_eq_self.mpr (numeric.all (by decide))

theorem noColon : ∀ c ∈ text, decide (c = ':') = false := by
  simpa using @all _ numeric (fun c => c ≠ ':') (by decide)

theorem contains_colon : text.contains ':' = false := by
  rw [List.contains_eq_mem, decide_eq_false_iff_not]
  exact fun listed => absurd (numeric.noColon ':' listed) (by decide)

theorem lower : Text.lower (String.ofList text) = String.ofList (text.map lowerLetter) := by
  rw [Text.lower, String.toList_ofList, lowerFrom_eq_map]
  simpa using @all _ numeric (fun c => c ≠ 'Σ' ∧ c ≠ 'İ') (by decide)

end IsNumeric

end PrismaNest.Text
