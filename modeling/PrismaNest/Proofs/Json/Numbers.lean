import PrismaNest.Proofs.Json.Strings
import PrismaNest.Proofs.Text.Runs

/-! Whole numbers of a document are read as they were written.

A whole number is written with its digits and perhaps a minus sign. It ends where no digit, point or
exponent follows. Numbers with too many digits are not read.
-/

set_option autoImplicit false

namespace PrismaNest

namespace Text

theorem digitValue?_of_isDigit {c : Char} (digit : c.isDigit = true) :
    digitValue? 10 c = some (c.toNat - '0'.toNat) := by
  have bounds : '0' ≤ c ∧ c ≤ '9' := by
    simpa [Char.isDigit, Char.le_def, UInt32.le_iff_toNat_le] using digit
  have low : '0'.toNat ≤ c.toNat ∧ c.toNat ≤ '9'.toNat := bounds
  have small : c.toNat - '0'.toNat < 10 := by
    have nine : '9'.toNat = '0'.toNat + 9 := rfl
    omega
  simp only [digitValue?, bounds, and_self, ↓reduceIte, small]

theorem digitsValue?_of_isDigit {digits : List Char} (all : ∀ c ∈ digits, c.isDigit = true) :
    digitsValue? 10 digits = some (Nat.ofDigitChars 10 digits 0) := by
  have step : ∀ (digits : List Char) (total : Nat), (∀ c ∈ digits, c.isDigit = true) →
      digits.foldlM (fun total c => (digitValue? 10 c).map (total * 10 + ·)) total =
        some (Nat.ofDigitChars 10 digits total) := by
    intro digits
    induction digits with
    | nil => exact fun total _ => rfl
    | cons c digits ih =>
      intro total all
      obtain ⟨first, others⟩ := List.forall_mem_cons.mp all
      rw [List.foldlM_cons, digitValue?_of_isDigit first, Nat.ofDigitChars_cons]
      rw [Nat.mul_comm 10 total]
      exact ih _ others
  exact step digits 0 all

theorem isDigit_of_mem_toDigits {number : Nat} : ∀ c ∈ Nat.toDigits 10 number, c.isDigit = true :=
  fun _ member => Nat.isDigit_of_mem_toDigits (by decide) (by decide) member

theorem exists_cons_toDigits (number : Nat) :
    ∃ c digits, Nat.toDigits 10 number = c :: digits ∧ c.isDigit = true := by
  cases written : Nat.toDigits 10 number with
  | nil => exact absurd written Nat.toDigits_ne_nil
  | cons c digits =>
    have member : c ∈ Nat.toDigits 10 number := by
      rw [written]
      exact List.mem_cons_self
    exact ⟨c, digits, rfl, isDigit_of_mem_toDigits c member⟩

theorem digitsValue?_toDigits (number : Nat) :
    digitsValue? 10 (Nat.toDigits 10 number) = some number := by
  rw [digitsValue?_of_isDigit isDigit_of_mem_toDigits, Nat.ofDigitChars_ten_toDigits]

-- Only zero is written with a zero in front.
theorem head?_toDigits_ne_zero {number : Nat} (positive : number ≠ 0) :
    (Nat.toDigits 10 number).head? ≠ some '0' := by
  induction number using Nat.strongRecOn with
  | ind number ih =>
    by_cases small : number < 10
    · have digit : ∀ digit < 10, digit ≠ 0 → Nat.digitChar digit ≠ '0' := by decide
      rw [Nat.toDigits_of_lt_base small, List.head?_cons, ne_eq, Option.some.injEq]
      exact digit number small positive
    · have shorter : Nat.toDigits 10 (number / 10) ≠ [] := Nat.toDigits_ne_nil
      rw [Nat.toDigits_of_base_le (by decide) (by omega), List.head?_append_of_ne_nil _ shorter]
      exact ih (number / 10) (by omega) (by omega)

end Text

namespace Json

open Text (StartsOutside)

variable {rest : List Char} {number : Int}

/-- The characters that a number can go on with. -/
def goesOn (c : Char) : Bool :=
  c.isDigit || c = '.' || c = 'e' || c = 'E'

/-- The text of a whole number. -/
def signed (negative : Bool) (size : Nat) : List Char :=
  (if negative then ['-'] else []) ++ Nat.toDigits 10 size

theorem toList_toString (number : Int) :
    (toString number).toList = signed (number < 0) number.natAbs := by
  cases number with
  | ofNat size =>
    change (toString size).toList = _
    rw [Nat.toString_eq_repr, Nat.toList_repr]
    rfl
  | negSucc size =>
    change ("-" ++ toString (size + 1)).toList = _
    rw [String.toList_append, Nat.toString_eq_repr, Nat.toList_repr,
      decide_eq_true (Int.negSucc_lt_zero size)]
    rfl

theorem wholeDigits_toDigits (stop : StartsOutside Char.isDigit rest) (size : Nat) :
    wholeDigits (Nat.toDigits 10 size ++ rest) = Nat.toDigits 10 size := by
  by_cases zero : size = 0
  · subst zero
    rfl
  · have nonempty : Nat.toDigits 10 size ≠ [] := Nat.toDigits_ne_nil
    have plain : (Nat.toDigits 10 size ++ rest).head? ≠ some '0' := by
      rw [List.head?_append_of_ne_nil _ nonempty]
      exact Text.head?_toDigits_ne_zero zero
    rw [wholeDigits, if_neg (by simpa using plain),
      Text.takeWhile_run Text.isDigit_of_mem_toDigits stop]

theorem fractionDigits_of_stop (stop : StartsOutside goesOn rest) : fractionDigits rest = [] := by
  rw [fractionDigits.eq_def]
  split
  · have point := stop '.' rfl
    cases point
  · rfl

theorem exponent?_of_stop (stop : StartsOutside goesOn rest) : exponent? rest = none := by
  cases rest with
  | nil => rfl
  | cons c rest =>
    have other := stop c rfl
    simp only [goesOn, Bool.or_eq_false_iff] at other
    simp only [exponent?, other.1.2, other.2, Bool.or_self, Bool.false_eq_true, ↓reduceIte]

theorem number?_signed (stop : StartsOutside goesOn rest) (negative : Bool) (size : Nat) :
    number? (signed negative size ++ rest) =
      some (⟨negative, Nat.toDigits 10 size, [], none⟩, (signed negative size).length) := by
  have noDigit : StartsOutside Char.isDigit rest := by
    intro c first
    have other := stop c first
    simp only [goesOn, Bool.or_eq_false_iff] at other
    exact other.1.1.1
  have nonempty : (Nat.toDigits 10 size).isEmpty = false := by
    simp [Nat.toDigits_ne_nil]
  have sign : ((signed negative size ++ rest).head? == some '-') = negative := by
    cases negative with
    | true => rfl
    | false =>
      obtain ⟨c, digits, written, digit⟩ := Text.exists_cons_toDigits size
      have noSign : c ≠ '-' := by
        rintro rfl
        exact Bool.false_ne_true digit
      simp [signed, written, noSign]
  have unsigned : (if negative = true then (signed negative size ++ rest).drop 1
      else signed negative size ++ rest) = Nat.toDigits 10 size ++ rest := by
    cases negative <;> rfl
  simp only [number?, sign, unsigned, wholeDigits_toDigits noDigit, nonempty, Bool.false_eq_true,
    ↓reduceIte, List.drop_left, fractionDigits_of_stop stop, List.isEmpty_nil, List.drop_zero,
    exponent?_of_stop stop, Option.map_none, Option.getD_none, Nat.add_zero]
  cases negative <;> simp [signed, Nat.add_comm]

theorem toJson_signed {negative : Bool} {size : Nat}
    (short : (Nat.toDigits 10 size).length ≤ Text.maxIntegerDigits) :
    NumberText.toJson ⟨negative, Nat.toDigits 10 size, [], none⟩ =
      .ok (.int (if negative then -size else size)) := by
  simp only [NumberText.toJson, List.isEmpty_nil, Option.isNone_none, Bool.and_self, ↓reduceIte,
    Nat.not_lt.mpr short, Text.digitsValue?_toDigits, Option.getD_some]

/-- A whole number with as many digits as are read. -/
def IsShort (number : Int) : Prop :=
  (Nat.toDigits 10 number.natAbs).length ≤ Text.maxIntegerDigits

instance (number : Int) : Decidable (IsShort number) :=
  inferInstanceAs (Decidable (_ ≤ _))

theorem after?_eq_none {word : String} {text : List Char} (other : ¬ word.toList <+: text) :
    after? word text = none := by
  unfold after?
  split
  · rfl
  · rename_i c more letters
    have noPrefix : ¬ (c :: more).isPrefixOf text = true := by
      rwa [List.isPrefixOf_iff_prefix, ← letters]
    rw [dif_neg noPrefix]

theorem words_start : ∀ word ∈ words, 2 ≤ word.1.toList.length ∧
    (word.1.toList.take 2).any Char.isDigit = false := by
  decide

theorem signed_start (negative : Bool) (size : Nat) :
    ∃ c more, signed negative size = c :: more ∧ (c = '-' ∨ c.isDigit = true) := by
  cases negative with
  | true => exact ⟨'-', _, rfl, .inl rfl⟩
  | false =>
    obtain ⟨c, digits, written, digit⟩ := Text.exists_cons_toDigits size
    exact ⟨c, digits, written, .inr digit⟩

theorem exists_digit_signed (negative : Bool) (size : Nat) (rest : List Char) :
    ∃ c ∈ (signed negative size ++ rest).take 2, c.isDigit = true := by
  obtain ⟨c, digits, written, digit⟩ := Text.exists_cons_toDigits size
  refine ⟨c, ?_, digit⟩
  cases negative <;> simp [signed, written]

-- A word starts with two characters that are no digits, a number with a digit or a sign and a digit.
theorem findSome?_words_of_digit {text : List Char}
    (early : ∃ c ∈ text.take 2, c.isDigit = true) :
    (words.findSome? fun (word, value) => (after? word text).map (value, ·)) = none := by
  rw [List.findSome?_eq_none_iff]
  rintro ⟨word, value⟩ listed
  obtain ⟨long, letters⟩ := words_start _ listed
  obtain ⟨c, early, digit⟩ := early
  have other : ¬ word.toList <+: text := by
    rintro ⟨more, same⟩
    rw [← same, List.take_append_of_le_length long] at early
    exact Bool.false_ne_true (letters.symm.trans (List.any_eq_true.mpr ⟨c, early, digit⟩))
  simp only [after?_eq_none other, Option.map_none]

theorem takes_readPlain_int (short : IsShort number) (stop : StartsOutside goesOn rest) :
    Takes (readPlain ((toString number).toList ++ rest)) (.int number) rest := by
  have size : 0 < (signed (number < 0) number.natAbs).length := by
    have nonempty : 0 < (Nat.toDigits 10 number.natAbs).length :=
      List.length_pos_iff.mpr Nat.toDigits_ne_nil
    simp only [signed, List.length_append]
    omega
  have nonempty : 0 < (signed (number < 0) number.natAbs ++ rest).length := by
    simp only [List.length_append]
    omega
  have same : (if number < 0 then -(number.natAbs : Int) else number.natAbs) = number := by
    split <;> omega
  rw [toList_toString, readPlain, findSome?_words_of_digit (exists_digit_signed _ _ rest)]
  simp only [number?_signed stop, toJson_signed short, dif_pos nonempty, decide_eq_true_eq, same,
    Except.map, dropShorter, Nat.max_eq_right size, List.drop_left]
  exact ⟨_, rfl⟩

end Json

end PrismaNest
