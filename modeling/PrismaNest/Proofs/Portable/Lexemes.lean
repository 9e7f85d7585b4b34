import PrismaNest.Proofs.Json.Numbers
import PrismaNest.Proofs.Portable.Sources
import PrismaNest.Proofs.Yaml.ScalarTokens

/-! The strings and numerals of portable texts.

Each piece of a string is one row of either reader, with the same character. No piece ends a line, so
that a string ends on the line where it starts.

A numeral is written with few characters. As JSON reads it, the digits in front of the point end at
the point, the fraction at the exponent, and the exponent where no further digit stands.
-/

set_option autoImplicit false

namespace PrismaNest.Portable

/-! ### Strings -/

section
open Yaml (isBreak isGap doubleQuoted ClosesOnLine)

variable {c : Char} {opening rest : List Char}

theorem isShown_iff : isShown c = true ↔ ((((0x20 ≤ c.toNat ∧ Yaml.isAllowed c = true) ∧
    isBreak c = false) ∧ c ≠ '\u0085') ∧ c ≠ '"') ∧ c ≠ '\\' := by
  simp only [isShown, Bool.and_eq_true, decide_eq_true_eq, Bool.not_eq_true']

theorem isBreak_of_digit (digit : (Text.digitValue? 16 c).isSome = true) : isBreak c = false := by
  obtain ⟨low, high⟩ := Text.printable_of_digitValue? digit
  rw [Bool.eq_false_iff]
  intro lineEnd
  simp only [isBreak, Bool.or_eq_true, decide_eq_true_eq] at lineEnd
  rcases lineEnd with (rfl | rfl) | rfl
  · exact absurd low (by decide)
  · exact absurd high (by decide)
  · exact absurd high (by decide)

namespace Piece

theorem oneLine (piece : Piece) : ∀ c ∈ piece.text, isBreak c = false := by
  cases piece with
  | shown c plain => exact List.forall_mem_singleton.mpr (isShown_iff.mp plain).1.1.1.2
  | letter mark c meant =>
    have marks : isBreak mark = false := by
      rw [Bool.eq_false_iff]
      intro lineEnd
      simp only [isBreak, Bool.or_eq_true, decide_eq_true_eq] at lineEnd
      rcases lineEnd with (rfl | rfl) | rfl <;> cases meant
    exact List.forall_mem_cons.mpr ⟨rfl, List.forall_mem_singleton.mpr marks⟩
  | code first second third fourth point spelled whole =>
    have digits := (Text.of_digitsValue? spelled).2
    refine List.forall_mem_cons.mpr ⟨rfl, List.forall_mem_cons.mpr ⟨rfl, ?_⟩⟩
    exact fun c member => isBreak_of_digit (digits c member)

theorem letterEscape?_of_simpleEscape? {mark : Char} (meant : Json.simpleEscape? mark = some c) :
    Yaml.letterEscape? mark = some c := by
  unfold Json.simpleEscape? at meant
  split at meant <;> cases meant <;> rfl

theorem not_isHighSurrogate {point : Nat} (whole : isSurrogate point = false) :
    Text.isHighSurrogate point = false := by
  rw [isSurrogate, Bool.or_eq_false_iff] at whole
  exact whole.1

end Piece

theorem oneLine_pieces (pieces : List Piece) :
    ∀ c ∈ pieces.flatMap Piece.text, isBreak c = false := by
  intro c member
  obtain ⟨piece, -, inside⟩ := List.mem_flatMap.mp member
  exact piece.oneLine c inside

theorem takes_readString_pieces (pieces : List Piece) (opening rest : List Char) :
    Json.Takes (Json.readString opening (pieces.flatMap Piece.text ++ '"' :: rest))
      (pieces.map Piece.meant) rest := by
  induction pieces with
  | nil => exact Json.takes_readString_quote opening rest
  | cons piece pieces ih =>
    rw [List.flatMap_cons, List.append_assoc, List.map_cons]
    cases piece with
    | shown c plain =>
      obtain ⟨⟨⟨⟨⟨printed, -⟩, -⟩, -⟩, noQuote⟩, noEscape⟩ := isShown_iff.mp plain
      exact ih.character noQuote noEscape (Nat.not_lt.mpr printed)
    | letter mark c meant => exact ih.shortEscape meant
    | code first second third fourth point spelled whole =>
      exact ih.codePoint spelled (Piece.not_isHighSurrogate whole)

theorem doubleQuoted_piece (piece : Piece) (closes : ClosesOnLine rest) :
    doubleQuoted (piece.text ++ rest) = (doubleQuoted rest).after [piece.meant] := by
  cases piece with
  | shown c plain =>
    obtain ⟨⟨⟨⟨⟨printed, -⟩, noBreak⟩, -⟩, noQuote⟩, noEscape⟩ := isShown_iff.mp plain
    by_cases space : c = ' '
    · subst space
      exact Yaml.doubleQuoted_space closes
    · have noTab : c ≠ '\t' := by
        rintro rfl
        exact absurd printed (by decide)
      have noBlank : (isGap c || isBreak c) = false := by
        simp [isGap, space, noTab, noBreak]
      exact Yaml.doubleQuoted_character noQuote noEscape noBlank rest
  | letter mark c meant =>
    exact Yaml.doubleQuoted_letter (Piece.letterEscape?_of_simpleEscape? meant) rest
  | code first second third fourth point spelled whole =>
    exact Yaml.doubleQuoted_code spelled (Piece.not_isHighSurrogate whole) rest

theorem doubleQuoted_pieces (pieces : List Piece) (rest : List Char) :
    doubleQuoted (pieces.flatMap Piece.text ++ '"' :: rest) =
      .ok (pieces.map Piece.meant, rest) := by
  induction pieces with
  | nil => exact Yaml.doubleQuoted_quote rest
  | cons piece pieces ih =>
    rw [List.flatMap_cons, List.append_assoc,
      doubleQuoted_piece piece ⟨_, rest, rfl, oneLine_pieces pieces⟩, ih]
    rfl

end

/-! ### Numerals -/

open Json (goesOn)
open Text (IsNumeric StartsOutside takeWhile_run)

variable {rest : List Char}

theorem Digits.exists_cons (digits : Digits) :
    ∃ c more, digits.chars = c :: more ∧ c.isDigit = true := by
  obtain ⟨c, more, written⟩ := List.exists_cons_of_ne_nil digits.written
  exact ⟨c, more, written, digits.all c (written ▸ List.mem_cons_self)⟩

theorem Digits.isEmpty_chars (digits : Digits) : digits.chars.isEmpty = false :=
  List.isEmpty_eq_false_iff.mpr digits.written

theorem ne_of_isDigit {c d : Char} (digit : c.isDigit = true) (other : d.isDigit = false) :
    c ≠ d := by
  rintro rfl
  exact Bool.false_ne_true (other.symm.trans digit)

theorem Digits.isNumeric (digits : Digits) : IsNumeric digits.chars :=
  .of_isDigit digits.all

theorem Exponent.isNumeric (exponent : Option Exponent) :
    IsNumeric ((exponent.map Exponent.text).getD []) := by
  cases exponent with
  | none => exact nofun
  | some exponent =>
    refine .cons ?_ (.cons ?_ exponent.digits.isNumeric)
    · cases exponent.capital <;> decide
    · cases exponent.negative <;> decide

namespace Numeral

/-- What stands behind the digits in front of the point. -/
def tail (fraction : Digits) (exponent : Option Exponent) : List Char :=
  '.' :: (fraction.chars ++ (exponent.map Exponent.text).getD [])

theorem isNumeric_sign (negative : Bool) : IsNumeric (sign negative) := by
  cases negative with
  | true => exact .cons (by decide) nofun
  | false => exact nofun

theorem isNumeric_tail (fraction : Digits) (exponent : Option Exponent) :
    IsNumeric (tail fraction exponent) :=
  .cons (by decide) (fraction.isNumeric.append (Exponent.isNumeric exponent))

theorem isNumeric (numeral : Numeral) : IsNumeric numeral.text := by
  cases numeral with
  | whole negative digits => exact (isNumeric_sign negative).append digits.isNumeric
  | real negative digits fraction exponent =>
    exact ((isNumeric_sign negative).append digits.isNumeric).append (isNumeric_tail fraction exponent)

end Numeral

theorem isDigit_of_goesOn (stop : StartsOutside goesOn rest) : StartsOutside Char.isDigit rest := by
  intro c first
  have other := stop c first
  simp only [goesOn, Bool.or_eq_false_iff] at other
  exact other.1.1.1

theorem wholeDigits_whole (digits : Whole) (stop : StartsOutside Char.isDigit rest) :
    Json.wholeDigits (digits.chars ++ rest) = digits.chars := by
  rw [Json.wholeDigits, List.head?_append_of_ne_nil _ digits.written]
  by_cases zero : digits.chars.head? = some '0'
  · have alone := digits.exact.resolve_right (not_not.mpr zero)
    rw [alone]
    rfl
  · rw [if_neg (by simpa using zero), takeWhile_run digits.all stop]

theorem fractionDigits_point (fraction : Digits) (stop : StartsOutside Char.isDigit rest) :
    Json.fractionDigits ('.' :: (fraction.chars ++ rest)) = fraction.chars :=
  takeWhile_run fraction.all stop

namespace Exponent

theorem startsOutside (exponent : Option Exponent) (stop : StartsOutside goesOn rest) :
    StartsOutside Char.isDigit ((exponent.map text).getD [] ++ rest) := by
  cases exponent with
  | none => exact isDigit_of_goesOn stop
  | some exponent =>
    intro c first
    cases exponent with
    | mk capital negative digits => cases capital <;> cases Option.some.inj first <;> rfl

theorem exponent?_text (exponent : Exponent) (stop : StartsOutside Char.isDigit rest) :
    Json.exponent? (exponent.text ++ rest) = some (exponent.value, exponent.text.length) := by
  obtain ⟨capital, negative, digits⟩ := exponent
  have taken : (digits.chars ++ rest).takeWhile Char.isDigit = digits.chars :=
    takeWhile_run digits.all stop
  cases capital <;> cases negative <;>
    simp [text, value, Json.exponent?, taken, digits.isEmpty_chars] <;> omega

theorem exponent?_optional (exponent : Option Exponent) (stop : StartsOutside goesOn rest) :
    Json.exponent? ((exponent.map text).getD [] ++ rest) =
      exponent.map fun exponent => (exponent.value, exponent.text.length) := by
  cases exponent with
  | none => exact Json.exponent?_of_stop stop
  | some exponent => exact exponent.exponent?_text (isDigit_of_goesOn stop)

end Exponent

namespace Numeral

theorem head?_signed (negative : Bool) (digits : Digits) (rest : List Char) :
    ((sign negative ++ (digits.chars ++ rest)).head? == some '-') = negative := by
  obtain ⟨c, more, written, digit⟩ := digits.exists_cons
  have noSign : c ≠ '-' := ne_of_isDigit digit rfl
  cases negative with
  | true => rfl
  | false => simp [sign, written, noSign]

theorem drop_sign (negative : Bool) (rest : List Char) :
    (if negative then (sign negative ++ rest).drop 1 else sign negative ++ rest) = rest := by
  cases negative <;> rfl

theorem length_sign (negative : Bool) : (sign negative).length = if negative then 1 else 0 := by
  cases negative <;> rfl

theorem number?_signed (negative : Bool) (digits : Whole) (stop : StartsOutside Char.isDigit rest) :
    Json.number? (sign negative ++ (digits.chars ++ rest)) =
      let fraction := Json.fractionDigits rest
      let size := if fraction.isEmpty then 0 else fraction.length + 1
      let exponent := Json.exponent? (rest.drop size)
      some (⟨negative, digits.chars, fraction, exponent.map (·.1)⟩,
        (if negative then 1 else 0) + digits.chars.length + size + (exponent.map (·.2)).getD 0) := by
  simp only [Json.number?, head?_signed negative digits.toDigits, drop_sign,
    wholeDigits_whole digits stop, digits.isEmpty_chars, Bool.false_eq_true, ↓reduceIte,
    List.drop_left]

theorem number?_text (numeral : Numeral) (stop : StartsOutside goesOn rest) :
    Json.number? (numeral.text ++ rest) = some (numeral.parts, numeral.text.length) := by
  cases numeral with
  | whole negative digits =>
    rw [text, List.append_assoc, number?_signed negative digits (isDigit_of_goesOn stop)]
    simp only [Json.fractionDigits_of_stop stop, Json.exponent?_of_stop stop, List.isEmpty_nil,
      ↓reduceIte, List.drop_zero, Option.map_none, Option.getD_none, parts, List.length_append,
      length_sign, Nat.add_zero]
  | real negative digits fraction exponent =>
    have point : StartsOutside Char.isDigit
        ('.' :: (fraction.chars ++ ((exponent.map Exponent.text).getD [] ++ rest))) := by
      intro c first
      cases Option.some.inj first
      rfl
    have split : (real negative digits fraction exponent).text ++ rest =
        sign negative ++ (digits.chars ++
          '.' :: (fraction.chars ++ ((exponent.map Exponent.text).getD [] ++ rest))) := by
      simp [text]
    rw [split, number?_signed negative digits point]
    simp only [fractionDigits_point fraction (Exponent.startsOutside exponent stop),
      fraction.isEmpty_chars, Bool.false_eq_true, ↓reduceIte, List.drop_succ_cons, List.drop_left]
    rw [Exponent.exponent?_optional exponent stop]
    cases exponent with
    | none =>
      simp only [Option.map_none, Option.getD_none, parts, text, List.length_append,
        List.length_cons, List.length_nil, length_sign, Nat.add_zero]
    | some exponent =>
      simp only [Option.map_some, Option.getD_some, parts, text, List.length_append,
        List.length_cons, length_sign]
      congr 2
      omega

-- A digit comes first, or right after the sign.
theorem text_start (numeral : Numeral) : ∃ negative c more,
    numeral.text = sign negative ++ c :: more ∧ c.isDigit = true := by
  cases numeral with
  | whole negative digits =>
    obtain ⟨c, more, split, digit⟩ := digits.exists_cons
    exact ⟨negative, c, more, by rw [text, split], digit⟩
  | real negative digits fraction exponent =>
    obtain ⟨c, more, split, digit⟩ := digits.exists_cons
    refine ⟨negative, c, more ++ '.' :: (fraction.chars ++ (exponent.map Exponent.text).getD []), ?_,
      digit⟩
    rw [text, split, List.append_assoc, List.cons_append]

theorem exists_digit (numeral : Numeral) (rest : List Char) :
    ∃ c ∈ (numeral.text ++ rest).take 2, c.isDigit = true := by
  obtain ⟨negative, c, more, written, digit⟩ := numeral.text_start
  refine ⟨c, ?_, digit⟩
  rw [written]
  cases negative <;> simp [sign]

theorem length_text_pos (numeral : Numeral) : 0 < numeral.text.length := by
  obtain ⟨negative, c, more, written, -⟩ := numeral.text_start
  rw [written, List.length_append, List.length_cons]
  omega

/-- A numeral is read as the number of its parts, and what stands behind it is left. -/
theorem readPlain_text (numeral : Numeral) (stop : StartsOutside goesOn rest) : ∃ shorter,
    Json.readPlain (numeral.text ++ rest) = numeral.parts.toJson.map (·, ⟨rest, shorter⟩) := by
  have size := numeral.length_text_pos
  have nonempty : 0 < (numeral.text ++ rest).length := by
    rw [List.length_append]
    omega
  have shorter : rest.length < (numeral.text ++ rest).length := by
    rw [List.length_append]
    omega
  refine ⟨shorter, ?_⟩
  rw [Json.readPlain, Json.findSome?_words_of_digit (numeral.exists_digit rest)]
  simp only [numeral.number?_text stop, dif_pos nonempty, Json.dropShorter, Nat.max_eq_right size,
    List.drop_left]

end Numeral

end PrismaNest.Portable
