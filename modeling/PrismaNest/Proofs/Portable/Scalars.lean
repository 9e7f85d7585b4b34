import PrismaNest.Proofs.Portable.Lexemes
import PrismaNest.Yaml.Scalar

/-! Portable numerals have the same values in both languages.

A numeral with a point is a floating-point number in both, any other one a whole number. The sign is
read apart in YAML, and letters are lowered before an exponent is sought. A whole number is too long
for both readers or for none.
-/

set_option autoImplicit false

namespace PrismaNest

theorem Binary64.negate_ofRatio (negative : Bool) (numerator denominator : Nat) :
    (ofRatio negative numerator denominator).negate = ofRatio (!negative) numerator denominator := by
  simp only [ofRatio, apply_ite negate]
  rfl

theorem Binary64.negate_ofDecimal (decimal : Decimal) :
    (ofDecimal decimal).negate = ofDecimal { decimal with negative := !decimal.negative } := by
  simp only [ofDecimal, apply_ite negate]
  cases decimal.exponent <;> simp only [negate_ofRatio] <;> rfl

namespace Yaml

open Text (IsNumeric)

section
variable {text : List Char}

theorem ofPlain_number (numeric : IsNumeric text) (digit : ∃ c ∈ text, c.isDigit = true)
    (number : isFloat text = true ∨ isInt text = true) :
    Tag.ofPlain (String.ofList text) = if isFloat text then .float else .int := by
  obtain ⟨c, member, digit⟩ := digit
  have noWord : ∀ words : List String, (words.all fun word => !word.toList.any Char.isDigit) = true →
      words.contains (String.ofList text) = false := by
    intro words letters
    rw [List.contains_eq_mem, decide_eq_false_iff_not]
    intro listed
    have letters := List.all_eq_true.mp letters _ listed
    rw [String.toList_ofList, Bool.not_eq_true', List.any_eq_false] at letters
    exact letters c member digit
  have written : String.ofList text ≠ "" := by
    rw [ne_eq, String.ofList_eq_empty_iff]
    exact List.ne_nil_of_mem member
  rw [Tag.ofPlain]
  simp only [String.toList_ofList, numeric.withoutLastBreak, if_neg written,
    noWord trueWords (by decide), noWord falseWords (by decide), Bool.or_self, Bool.false_eq_true,
    ↓reduceIte]
  rcases number with float | int
  · simp only [float, ↓reduceIte]
  · simp only [int, ↓reduceIte]

end

end Yaml

namespace Portable

open Text (IsNumeric StartsOutside takeWhile_run dropWhile_run)
open Yaml (takeSign unsigned)

/-! ### The text of a numeral -/

/-- An exponent with a small mark. -/
def Exponent.lower (exponent : Exponent) : Exponent :=
  { exponent with capital := false }

theorem Exponent.map_lowerLetter (exponent : Exponent) :
    exponent.text.map Text.lowerLetter = exponent.lower.text := by
  obtain ⟨capital, negative, digits⟩ := exponent
  have letters : Text.lowerLetter 'E' = 'e' ∧ Text.lowerLetter 'e' = 'e' ∧
      Text.lowerLetter '-' = '-' ∧ Text.lowerLetter '+' = '+' := by decide
  obtain ⟨capitalMark, mark, minus, plus⟩ := letters
  cases capital <;> cases negative <;>
    simp only [text, lower, List.map_cons, Bool.false_eq_true, ↓reduceIte, capitalMark, mark, minus,
      plus, Text.map_lowerLetter_of_isDigit digits.all]

namespace Numeral

theorem takeSign_signed (negative : Bool) (digits : Digits) (rest : List Char) :
    takeSign (sign negative ++ (digits.chars ++ rest)) = (negative, digits.chars ++ rest) := by
  obtain ⟨c, more, written, digit⟩ := digits.exists_cons
  have noMinus : c ≠ '-' := ne_of_isDigit digit rfl
  have noPlus : c ≠ '+' := ne_of_isDigit digit rfl
  cases negative with
  | true => rfl
  | false => simp [takeSign, unsigned, sign, written, noMinus, noPlus]

theorem takeSign_digits (digits : Digits) (rest : List Char) :
    takeSign (digits.chars ++ rest) = (false, digits.chars ++ rest) :=
  takeSign_signed false digits rest

theorem takeSign_whole (negative : Bool) (digits : Whole) :
    takeSign (whole negative digits).text = (negative, digits.chars) := by
  simpa only [List.append_nil, text] using takeSign_signed negative digits.toDigits []

theorem unsigned_signed (negative : Bool) (digits : Digits) (rest : List Char) :
    unsigned (sign negative ++ (digits.chars ++ rest)) = digits.chars ++ rest :=
  congrArg Prod.snd (takeSign_signed negative digits rest)

/-! ### The forms of numerals -/

theorem noPoint_of_digits (digits : Digits) : ∀ c ∈ digits.chars, decide (c ≠ '.') = true := by
  intro c member
  exact decide_eq_true (ne_of_isDigit (digits.all c member) rfl)

theorem startsOutside_point (rest : List Char) :
    StartsOutside (fun c => decide (c ≠ '.')) ('.' :: rest) := by
  intro c first
  cases Option.some.inj first
  rfl

theorem takeWhile_point (digits : Digits) (rest : List Char) :
    (digits.chars ++ '.' :: rest).takeWhile (· ≠ '.') = digits.chars :=
  takeWhile_run (noPoint_of_digits digits) (startsOutside_point rest)

theorem dropWhile_point (digits : Digits) (rest : List Char) :
    (digits.chars ++ '.' :: rest).dropWhile (· ≠ '.') = '.' :: rest :=
  dropWhile_run (noPoint_of_digits digits) (startsOutside_point rest)

theorem isDigits_digits (digits : Digits) : Yaml.isDigits digits.chars = true := by
  obtain ⟨c, more, written, digit⟩ := digits.exists_cons
  have others : ∀ d ∈ more, d.isDigit = true :=
    fun d member => digits.all d (written ▸ List.mem_cons_of_mem c member)
  simp only [written, Yaml.isDigits, digit, Bool.true_and, List.all_eq_true, Bool.or_eq_true]
  exact fun d member => .inl (others d member)

theorem splitOnP_colon (digits : Digits) : digits.chars.splitOnP (· = ':') = [digits.chars] :=
  List.splitOnP_eq_singleton digits.isNumeric.noColon

theorem isFloat_whole (negative : Bool) (digits : Whole) :
    Yaml.isFloat (whole negative digits).text = false := by
  have bare : unsigned (whole negative digits).text = digits.chars :=
    congrArg Prod.snd (takeSign_whole negative digits)
  have noPoint : digits.chars.dropWhile (· ≠ '.') = [] :=
    List.dropWhile_eq_nil_iff.mpr (noPoint_of_digits digits.toDigits)
  simp only [Yaml.isFloat, bare, noPoint]

theorem isInt_whole (negative : Bool) (digits : Whole) :
    Yaml.isInt (whole negative digits).text = true := by
  have bare : unsigned (whole negative digits).text = digits.chars :=
    congrArg Prod.snd (takeSign_whole negative digits)
  rw [Yaml.isInt, bare]
  rcases digits.exact with zero | nonzero
  · rw [zero]
    rfl
  · split
    case h_5 =>
      simp only [splitOnP_colon, isDigits_digits, List.all_nil, Bool.and_self]
    all_goals
      rename_i written
      exact absurd (congrArg List.head? written) nonzero

theorem dropWhile_fraction (fraction : Digits) (exponent : Option Exponent) :
    (fraction.chars ++ (exponent.map Exponent.text).getD []).dropWhile
      (fun c => c.isDigit || c = '_') = (exponent.map Exponent.text).getD [] := by
  refine dropWhile_run (fun c member => ?_) fun c first => ?_
  · rw [fraction.all c member, Bool.true_or]
  · cases exponent with
    | none => cases first
    | some exponent =>
      obtain ⟨capital, negative, digits⟩ := exponent
      cases capital <;> cases Option.some.inj first <;> rfl

theorem isExponent_optional (exponent : Option Exponent) :
    Yaml.isExponent ((exponent.map Exponent.text).getD []) = true := by
  cases exponent with
  | none => rfl
  | some exponent =>
    obtain ⟨capital, negative, digits⟩ := exponent
    have all : digits.chars.all Char.isDigit = true := List.all_eq_true.mpr digits.all
    cases capital <;> cases negative <;>
      simp [Exponent.text, Yaml.isExponent, digits.isEmpty_chars, all]

theorem isFloat_real (negative : Bool) (digits : Whole) (fraction : Digits)
    (exponent : Option Exponent) :
    Yaml.isFloat (real negative digits fraction exponent).text = true := by
  rw [text, List.append_assoc, Yaml.isFloat, unsigned_signed negative digits.toDigits]
  simp only [takeWhile_point, dropWhile_point, digits.isEmpty_chars, Bool.false_eq_true, ↓reduceIte,
    splitOnP_colon, isDigits_digits, List.all_nil, List.isEmpty_nil, Bool.and_self,
    Yaml.isFraction, dropWhile_fraction, isExponent_optional]

theorem ofPlain_text (numeral : Numeral) :
    Yaml.Tag.ofPlain (String.ofList numeral.text) =
      match numeral with
      | .whole .. => .int
      | .real .. => .float := by
  obtain ⟨c, early, digit⟩ := numeral.exists_digit []
  rw [List.append_nil] at early
  have member := List.mem_of_mem_take early
  cases numeral with
  | whole negative digits =>
    rw [Yaml.ofPlain_number (isNumeric _) ⟨c, member, digit⟩ (.inr (isInt_whole negative digits)),
      isFloat_whole]
    rfl
  | real negative digits fraction exponent =>
    have float := isFloat_real negative digits fraction exponent
    rw [Yaml.ofPlain_number (isNumeric _) ⟨c, member, digit⟩ (.inl float), if_pos float]

/-! ### Values -/

theorem wholeInBase_digits (digits : Digits) :
    Yaml.wholeInBase 10 digits.chars =
      if Text.maxIntegerDigits < digits.chars.length then .error (.longInteger digits.chars.length)
      else .ok (Nat.ofDigitChars 10 digits.chars 0) := by
  have unmarked : ∀ text, Yaml.withoutBaseMark 10 text = text := by
    intro text
    unfold Yaml.withoutBaseMark
    split <;> rfl
  have all : digits.chars.all Char.isDigit = true := List.all_eq_true.mpr digits.all
  have bare := takeSign_digits digits []
  rw [List.append_nil] at bare
  rw [Yaml.wholeInBase, digits.isNumeric.trim, digits.isNumeric.map_asciiDigit, bare]
  simp only [unmarked, all, digits.isEmpty_chars, Bool.and_true, decide_true, Bool.true_and,
    decide_eq_true_eq, Bool.false_eq_true, ↓reduceIte, Text.digitsValue?_of_isDigit digits.all]

theorem wholeNumber_whole (negative : Bool) (digits : Whole) :
    Yaml.wholeNumber (whole negative digits).text =
      (Yaml.wholeInBase 10 digits.chars).map fun size => if negative then -size else size := by
  rw [Yaml.wholeNumber, (isNumeric _).filter_underscore, takeSign_whole]
  rcases digits.exact with zero | nonzero
  · rw [wholeInBase_digits, zero]
    rfl
  · refine congrArg (Except.map _) ?_
    split
    case h_5 => simp only [digits.isNumeric.contains_colon, Bool.false_eq_true, ↓reduceIte]
    all_goals
      rename_i written
      exact absurd (congrArg List.head? written) nonzero

theorem toJson_whole (negative : Bool) (digits : Whole) :
    (whole negative digits).parts.toJson =
      if Text.maxIntegerDigits < digits.chars.length then .error (.longInteger digits.chars.length)
      else .ok (.int (if negative then -Nat.ofDigitChars 10 digits.chars 0
        else Nat.ofDigitChars 10 digits.chars 0)) := by
  simp only [Json.NumberText.toJson, parts, List.isEmpty_nil, Option.isNone_none, Bool.and_self,
    ↓reduceIte, Text.digitsValue?_of_isDigit digits.all, Option.getD_some, gt_iff_lt]

/-- A numeral with a small mark in front of its exponent. -/
def lower : Numeral → Numeral
  | .whole negative digits => .whole negative digits
  | .real negative digits fraction exponent =>
    .real negative digits fraction (exponent.map Exponent.lower)

theorem map_lowerLetter (numeral : Numeral) :
    numeral.text.map Text.lowerLetter = numeral.lower.text := by
  have letters : Text.lowerLetter '-' = '-' ∧ Text.lowerLetter '.' = '.' := by decide
  obtain ⟨minus, point⟩ := letters
  have signs : ∀ negative, (sign negative).map Text.lowerLetter = sign negative := by
    intro negative
    cases negative with
    | true => exact congrArg ([·]) minus
    | false => rfl
  cases numeral with
  | whole negative digits =>
    rw [lower, text, List.map_append, signs, Text.map_lowerLetter_of_isDigit digits.all]
  | real negative digits fraction exponent =>
    simp only [lower, text, List.map_append, signs, List.map_cons, point,
      Text.map_lowerLetter_of_isDigit digits.all, Text.map_lowerLetter_of_isDigit fraction.all]
    cases exponent with
    | none => rfl
    | some exponent =>
      simp only [Option.map_some, Option.getD_some, exponent.map_lowerLetter]

theorem mantissa_noMark (digits : Whole) (fraction : Digits) :
    ∀ c ∈ digits.chars ++ '.' :: fraction.chars, decide (c ≠ 'e') = true := by
  have noMark : ∀ c, c.isDigit = true → decide (c ≠ 'e') = true :=
    fun c digit => decide_eq_true (ne_of_isDigit digit rfl)
  refine List.forall_mem_append.mpr ⟨fun c member => noMark c (digits.all c member), ?_⟩
  exact List.forall_mem_cons.mpr ⟨rfl, fun c member => noMark c (fraction.all c member)⟩

theorem startsOutside_exponent (exponent : Option Exponent) :
    StartsOutside (fun c => decide (c ≠ 'e'))
      (((exponent.map Exponent.lower).map Exponent.text).getD []) := by
  cases exponent with
  | none => exact nofun
  | some exponent =>
    intro c first
    cases Option.some.inj first
    rfl

theorem takeSign_exponent (exponent : Exponent) :
    takeSign ((if exponent.negative then '-' else '+') :: exponent.digits.chars) =
      (exponent.negative, exponent.digits.chars) := by
  cases exponent.negative <;> rfl

theorem decimal?_lower (digits : Whole) (fraction : Digits) (exponent : Option Exponent) :
    Yaml.decimal? (digits.chars ++ tail fraction (exponent.map Exponent.lower)) =
      some (real false digits fraction exponent).parts.decimal := by
  have plain := mantissa_noMark digits fraction
  have stop := startsOutside_exponent exponent
  have written : (digits.chars ++ fraction.chars).isEmpty = false :=
    List.isEmpty_eq_false_iff.mpr (List.append_ne_nil_of_left_ne_nil digits.written _)
  have coefficient := Text.digitsValue?_of_isDigit
    (List.forall_mem_append.mpr ⟨digits.all, fraction.all⟩)
  have split : digits.chars ++ tail fraction (exponent.map Exponent.lower) =
      (digits.chars ++ '.' :: fraction.chars) ++
        ((exponent.map Exponent.lower).map Exponent.text).getD [] := by
    rw [tail, List.append_assoc, List.cons_append]
  rw [split, Yaml.decimal?, takeWhile_run plain stop, dropWhile_run plain stop]
  simp only [takeWhile_point, dropWhile_point, List.drop_succ_cons, List.drop_zero, written,
    Bool.false_eq_true, ↓reduceIte, coefficient, Option.bind_eq_bind, Option.bind_some, parts,
    Json.NumberText.decimal, Option.getD_some]
  cases exponent with
  | none => rfl
  | some exponent =>
    simp only [Option.map_some, Option.getD_some, Exponent.text, Exponent.lower, takeSign_exponent,
      exponent.digits.isEmpty_chars, Bool.false_eq_true, ↓reduceIte, Exponent.value,
      Text.digitsValue?_of_isDigit exponent.digits.all, Option.bind_some]
    rfl

theorem ne_of_noDigits (digits : Digits) (rest : List Char) {word : List Char}
    (letters : word.all (fun c => !c.isDigit) = true) : digits.chars ++ rest ≠ word := by
  rintro rfl
  obtain ⟨c, more, written, digit⟩ := digits.exists_cons
  simp [written, digit] at letters

theorem pointNumber_lower (digits : Whole) (fraction : Digits) (exponent : Option Exponent) :
    Yaml.pointNumber (digits.chars ++ tail fraction (exponent.map Exponent.lower)) =
      .ok (Binary64.ofDecimal (real false digits fraction exponent).parts.decimal) := by
  have numeric : IsNumeric (digits.chars ++ tail fraction (exponent.map Exponent.lower)) :=
    digits.isNumeric.append (isNumeric_tail _ _)
  have other := @ne_of_noDigits digits.toDigits (tail fraction (exponent.map Exponent.lower))
  rw [Yaml.pointNumber, numeric.trim, numeric.map_asciiDigit, takeSign_digits]
  simp only [@other "inf".toList (by decide), @other "infinity".toList (by decide),
    @other "nan".toList (by decide), decimal?_lower, decide_false, Bool.or_self, Bool.false_eq_true,
    ↓reduceIte]

theorem realNumber_real (negative : Bool) (digits : Whole) (fraction : Digits)
    (exponent : Option Exponent) :
    Yaml.realNumber (real negative digits fraction exponent).text =
      .ok (Binary64.ofDecimal (real negative digits fraction exponent).parts.decimal) := by
  have numeric : IsNumeric (digits.chars ++ tail fraction (exponent.map Exponent.lower)) :=
    digits.isNumeric.append (isNumeric_tail _ _)
  have other := @ne_of_noDigits digits.toDigits (tail fraction (exponent.map Exponent.lower))
  have signed : takeSign (real negative digits fraction (exponent.map Exponent.lower)).text =
      (negative, digits.chars ++ tail fraction (exponent.map Exponent.lower)) := by
    rw [text, List.append_assoc]
    exact takeSign_signed negative digits.toDigits _
  rw [Yaml.realNumber, (isNumeric _).filter_underscore, (isNumeric _).lower, String.toList_ofList,
    map_lowerLetter, lower, signed]
  simp only [@other ".inf".toList (by decide), @other ".nan".toList (by decide),
    numeric.contains_colon, Bool.false_eq_true, ↓reduceIte, pointNumber_lower, Except.map]
  cases negative with
  | false => rfl
  | true =>
    simp only [↓reduceIte, Binary64.negate_ofDecimal]
    rfl

theorem scalarValue_number (numeral : Numeral) :
    match numeral.parts.toJson with
    | .ok document => Yaml.scalarValue (Yaml.Tag.ofPlain (String.ofList numeral.text))
        (String.ofList numeral.text) = .ok (Value.ofJson document)
    | .error _ => ∃ digits, Yaml.scalarValue (Yaml.Tag.ofPlain (String.ofList numeral.text))
        (String.ofList numeral.text) = .error (.scalar (.longInteger digits)) := by
  have written : numeral.text ≠ [] := List.ne_nil_of_length_pos numeral.length_text_pos
  rw [ofPlain_text]
  cases numeral with
  | whole negative digits =>
    have bare : unsigned (whole negative digits).text = digits.chars :=
      congrArg Prod.snd (takeSign_whole negative digits)
    simp only [Yaml.scalarValue, String.toList_ofList, (isNumeric _).filter_underscore, bare,
      digits.isEmpty_chars, Bool.false_eq_true, ↓reduceIte, wholeNumber_whole, wholeInBase_digits,
      toJson_whole]
    by_cases long : Text.maxIntegerDigits < digits.chars.length
    · simp only [long, ↓reduceIte]
      exact ⟨_, rfl⟩
    · simp only [long, ↓reduceIte]
      rfl
  | real negative digits fraction exponent =>
    have nonempty := List.isEmpty_eq_false_iff.mpr written
    simp only [Yaml.scalarValue, String.toList_ofList, (isNumeric _).filter_underscore, nonempty,
      Bool.false_eq_true, ↓reduceIte, realNumber_real, Json.NumberText.toJson]
    simp only [parts, fraction.isEmpty_chars, Bool.false_and, Bool.false_eq_true, ↓reduceIte]
    rfl

end Numeral

end Portable

end PrismaNest
