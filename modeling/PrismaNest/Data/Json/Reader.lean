import PrismaNest.Data.Json
import PrismaNest.Entries
import PrismaNest.Text.CodePoint
import PrismaNest.Text.DecimalDigit

/-! Reading JSON documents.

A reader takes a value off the front of a text and gives the rest, which is
shorter. A fault keeps the text from the faulty place on; its position follows from
the length of what is left. Beyond the standard, the numbers `NaN`, `Infinity` and
`-Infinity` are read, and a key that comes twice keeps its first place and takes
the last value.
-/

set_option autoImplicit false

namespace PrismaNest.Json

inductive Problem where
  | expectingValue
  | expectingName
  | expectingColon
  | expectingComma
  | openString
  | unknownEscape
  | badCodePoint
  | controlCharacter
  | extraData
  | byteOrderMark
  deriving DecidableEq, Repr

def Problem.message : Problem → String
  | .expectingValue => "Expecting value"
  | .expectingName => "Expecting property name enclosed in double quotes"
  | .expectingColon => "Expecting ':' delimiter"
  | .expectingComma => "Expecting ',' delimiter"
  | .openString => "Unterminated string starting at"
  | .unknownEscape => "Invalid \\escape"
  | .badCodePoint => "Invalid \\uXXXX escape"
  | .controlCharacter => "Invalid control character at"
  | .extraData => "Extra data"
  | .byteOrderMark => "Unexpected UTF-8 BOM (decode using utf-8-sig)"

/-- Why a text is no document: a problem with the text from there on, or a whole number
with too many digits to be read. -/
inductive Fault where
  | malformed (problem : Problem) (rest : List Char)
  | longInteger (digits : Nat)
  deriving DecidableEq, Repr

/-- What may be left of a text after something was taken off its front. -/
abbrev Shorter (text : List Char) := { rest : List Char // rest.length < text.length }

def isGap (c : Char) : Bool :=
  c = ' ' || c = '\t' || c = '\n' || c = '\r'

def skipGaps (text : List Char) : List Char :=
  text.dropWhile isGap

theorem length_skipGaps_le (text : List Char) : (skipGaps text).length ≤ text.length :=
  (List.dropWhile_suffix isGap).length_le

theorem length_drop_lt {c : Char} {more text : List Char}
    (start : (c :: more).isPrefixOf text = true) :
    (text.drop (c :: more).length).length < text.length := by
  have bound := (List.isPrefixOf_iff_prefix.mp start).length_le
  simp only [List.length_drop, List.length_cons] at bound ⊢
  omega

def after? (start : String) (text : List Char) : Option (Shorter text) :=
  match start.toList with
  | [] => none
  | c :: more =>
    if h : (c :: more).isPrefixOf text then
      some ⟨text.drop (c :: more).length, length_drop_lt h⟩
    else none

def codePoint? (a b c d : Char) : Option Nat :=
  Text.digitsValue? 16 [a, b, c, d]

def simpleEscape? : Char → Option Char
  | '"' => some '"'
  | '\\' => some '\\'
  | '/' => some '/'
  | 'b' => some '\x08'
  | 'f' => some '\x0C'
  | 'n' => some '\n'
  | 'r' => some '\r'
  | 't' => some '\t'
  | _ => none

/-- The second half of a surrogate pair, which counts only if the text goes on after it. -/
def lowHalf? : List Char → Except Fault (Option (Nat × List Char))
  | '\\' :: 'u' :: a :: b :: c :: d :: next :: rest =>
    match codePoint? a b c d with
    | none => .error (.malformed .badCodePoint ('u' :: a :: b :: c :: d :: next :: rest))
    | some code => .ok (if Text.isLowSurrogate code then some (code, next :: rest) else none)
  | _ => .ok none

theorem length_lowHalf?_lt {text rest : List Char} {code : Nat}
    (found : lowHalf? text = .ok (some (code, rest))) : rest.length < text.length := by
  unfold lowHalf? at found
  split at found
  · split at found
    · cases found
    · split at found
      · cases found
        simp only [List.length_cons]
        omega
      · cases found
  · cases found

/-- The characters of a string and what follows it, or why there is none. -/
abbrev StringRead (text : List Char) := Except Fault (List Char × Shorter text)

/-- A string of one more character, which starts further on the left. -/
def StringRead.after {inner text : List Char} (c : Char) (bound : inner.length ≤ text.length) :
    StringRead inner → StringRead text
  | .error fault => .error fault
  | .ok (chars, rest) => .ok (c :: chars, ⟨rest.1, Nat.lt_of_lt_of_le rest.2 bound⟩)

/-- Reads a string, given the text from its opening quote on and what is left after some of its
characters. -/
def readString (opening text : List Char) : StringRead text :=
  match text with
  | [] => .error (.malformed .openString opening)
  | '"' :: rest => .ok ([], ⟨rest, Nat.lt_succ_self _⟩)
  | '\\' :: 'u' :: a :: b :: c :: d :: next :: rest =>
    match codePoint? a b c d with
    | none => .error (.malformed .badCodePoint ('u' :: a :: b :: c :: d :: next :: rest))
    | some code =>
      if Text.isHighSurrogate code then
        match found : lowHalf? (next :: rest) with
        | .error fault => .error fault
        | .ok (some (low, after)) =>
          have shorter := length_lowHalf?_lt found
          (readString opening after).after (Text.joinedSurrogates code low)
            (Nat.le_trans (Nat.le_of_lt shorter) (Nat.le_add_right _ 6))
        | .ok none =>
          (readString opening (next :: rest)).after (Text.charOf code) (Nat.le_add_right _ 6)
      else (readString opening (next :: rest)).after (Text.charOf code) (Nat.le_add_right _ 6)
  | '\\' :: 'u' :: rest => .error (.malformed .badCodePoint ('u' :: rest))
  | ['\\'] => .error (.malformed .openString opening)
  | '\\' :: c :: rest =>
    match simpleEscape? c with
    | none => .error (.malformed .unknownEscape ('\\' :: c :: rest))
    | some meant => (readString opening rest).after meant (Nat.le_add_right _ 2)
  | c :: rest =>
    if c.toNat < 0x20 then .error (.malformed .controlCharacter (c :: rest))
    else (readString opening rest).after c (Nat.le_succ _)
termination_by text.length
decreasing_by all_goals (simp only [List.length_cons] at *; omega)

structure NumberText where
  negative : Bool
  whole : List Char
  fraction : List Char
  exponent : Option Int
  deriving DecidableEq, Repr

namespace NumberText

def decimal (number : NumberText) : Decimal where
  negative := number.negative
  coefficient := (Text.digitsValue? 10 (number.whole ++ number.fraction)).getD 0
  exponent := number.exponent.getD 0 - number.fraction.length

def toJson (number : NumberText) : Except Fault Json :=
  if number.fraction.isEmpty && number.exponent.isNone then
    if number.whole.length > Text.maxIntegerDigits then .error (.longInteger number.whole.length)
    else
      let size : Int := (Text.digitsValue? 10 number.whole).getD 0
      .ok (.int (if number.negative then -size else size))
  else .ok (.float (Binary64.ofDecimal number.decimal))

end NumberText

/-- The digits before the point: zero alone, or digits that do not start with zero. -/
def wholeDigits (text : List Char) : List Char :=
  if text.head? == some '0' then ['0'] else text.takeWhile Char.isDigit

def fractionDigits : List Char → List Char
  | '.' :: rest => rest.takeWhile Char.isDigit
  | _ => []

/-- An exponent and the number of characters it takes, if one comes next. -/
def exponent? : List Char → Option (Int × Nat)
  | e :: rest =>
    if e = 'e' || e = 'E' then
      let signed := rest.head? == some '-' || rest.head? == some '+'
      let digits := (if signed then rest.drop 1 else rest).takeWhile Char.isDigit
      let size : Int := (Text.digitsValue? 10 digits).getD 0
      if digits.isEmpty then none
      else some (if rest.head? == some '-' then -size else size,
        1 + (if signed then 1 else 0) + digits.length)
    else none
  | [] => none

/-- A number at the start of a text, and how many characters it takes. -/
def number? (text : List Char) : Option (NumberText × Nat) :=
  let negative := text.head? == some '-'
  let unsigned := if negative then text.drop 1 else text
  let whole := wholeDigits unsigned
  if whole.isEmpty then none
  else
    let tail := unsigned.drop whole.length
    let fraction := fractionDigits tail
    let fractionSize := if fraction.isEmpty then 0 else fraction.length + 1
    let exponent := exponent? (tail.drop fractionSize)
    some (⟨negative, whole, fraction, exponent.map (·.1)⟩,
      (if negative then 1 else 0) + whole.length + fractionSize + (exponent.map (·.2)).getD 0)

def dropShorter (count : Nat) (text : List Char) (some_left : 0 < text.length) : Shorter text :=
  ⟨text.drop (max 1 count), by simp only [List.length_drop]; omega⟩

def words : List (String × Json) :=
  [("null", .null), ("true", .bool true), ("false", .bool false), ("NaN", .float .nan),
   ("Infinity", .float (.infinite false)), ("-Infinity", .float (.infinite true))]

def readPlain (text : List Char) : Except Fault (Json × Shorter text) :=
  match words.findSome? fun (word, value) => (after? word text).map (value, ·) with
  | some taken => .ok taken
  | none =>
    match number? text with
    | none => .error (.malformed .expectingValue text)
    | some (number, size) =>
      if nonempty : 0 < text.length then
        number.toJson.map (·, dropShorter size text nonempty)
      else .error (.malformed .expectingValue text)

mutual

def readValue (text : List Char) : Except Fault (Json × Shorter text) :=
  match text with
  | '"' :: rest =>
    match readString ('"' :: rest) rest with
    | .error fault => .error fault
    | .ok (chars, last) =>
      .ok (.string (String.ofList chars), ⟨last.1, by have := last.2; simp; omega⟩)
  | '[' :: rest =>
    match opened : skipGaps rest with
    | ']' :: after =>
      .ok (.array [], ⟨after, by
        have := length_skipGaps_le rest
        simp only [opened, List.length_cons] at *
        omega⟩)
    | inside =>
      have bound : inside.length ≤ rest.length := opened ▸ length_skipGaps_le rest
      match readItems inside with
      | .error fault => .error fault
      | .ok (items, last) =>
        .ok (.array items, ⟨last.1, by have := last.2; simp only [List.length_cons]; omega⟩)
  | '{' :: rest =>
    match opened : skipGaps rest with
    | '}' :: after =>
      .ok (.object [], ⟨after, by
        have := length_skipGaps_le rest
        simp only [opened, List.length_cons] at *
        omega⟩)
    | inside =>
      have bound : inside.length ≤ rest.length := opened ▸ length_skipGaps_le rest
      match readEntries inside with
      | .error fault => .error fault
      | .ok (entries, last) =>
        .ok (.object (putEntries [] entries),
          ⟨last.1, by have := last.2; simp only [List.length_cons]; omega⟩)
  | other => readPlain other
termination_by (text.length, 0)
decreasing_by
  all_goals simp_wf
  all_goals exact Prod.Lex.left _ _ (by omega)

def readItems (text : List Char) : Except Fault (List Json × Shorter text) :=
  match readValue text with
  | .error fault => .error fault
  | .ok (item, last) =>
    have first := last.2
    have gap := length_skipGaps_le last.1
    match closed : skipGaps last.1 with
    | ']' :: after =>
      .ok ([item], ⟨after, by simp only [closed, List.length_cons] at *; omega⟩)
    | ',' :: after =>
      have next := length_skipGaps_le after
      have shorter : (skipGaps after).length < text.length := by
        simp only [closed, List.length_cons] at *; omega
      match readItems (skipGaps after) with
      | .error fault => .error fault
      | .ok (items, rest) => .ok (item :: items, ⟨rest.1, by have := rest.2; omega⟩)
    | other => .error (.malformed .expectingComma other)
termination_by (text.length, 1)
decreasing_by
  · exact Prod.Lex.right _ (by omega)
  · exact Prod.Lex.left _ _ shorter

def readEntries (text : List Char) : Except Fault (List (String × Json) × Shorter text) :=
  match text with
  | '"' :: body =>
    match readString ('"' :: body) body with
    | .error fault => .error fault
    | .ok (name, afterName) =>
      have nameEnd := afterName.2
      have gap := length_skipGaps_le afterName.1
      match colon : skipGaps afterName.1 with
      | ':' :: afterColon =>
        have valueGap := length_skipGaps_le afterColon
        have valueShorter : (skipGaps afterColon).length < body.length + 1 := by
          simp only [colon, List.length_cons] at *; omega
        match readValue (skipGaps afterColon) with
        | .error fault => .error fault
        | .ok (value, afterValue) =>
          have valueEnd := afterValue.2
          have closingGap := length_skipGaps_le afterValue.1
          match closed : skipGaps afterValue.1 with
          | '}' :: after =>
            .ok ([(String.ofList name, value)], ⟨after, by
              simp only [closed, List.length_cons] at *; omega⟩)
          | ',' :: after =>
            have next := length_skipGaps_le after
            have shorter : (skipGaps after).length < body.length + 1 := by
              simp only [closed, List.length_cons] at *; omega
            match readEntries (skipGaps after) with
            | .error fault => .error fault
            | .ok (entries, rest) =>
              .ok ((String.ofList name, value) :: entries, ⟨rest.1, by
                have := rest.2; simp only [List.length_cons]; omega⟩)
          | other => .error (.malformed .expectingComma other)
      | other => .error (.malformed .expectingColon other)
  | other => .error (.malformed .expectingName other)
termination_by (text.length, 0)
decreasing_by
  all_goals simp_wf
  all_goals exact Prod.Lex.left _ _ (by omega)

end

def ofText (text : List Char) : Except Fault Json :=
  if text.head? == some '\uFEFF' then .error (.malformed .byteOrderMark text)
  else
    match readValue (skipGaps text) with
    | .error fault => .error fault
    | .ok (value, last) =>
      match skipGaps last.1 with
      | [] => .ok value
      | extra => .error (.malformed .extraData extra)

/-- What is wrong with a text, and where: the line and the column, and the place in the whole. -/
def Fault.message (text : List Char) : Fault → String
  | .malformed problem rest =>
    let before := text.take (text.length - rest.length)
    let column := (before.reverse.takeWhile (· ≠ '\n')).length + 1
    problem.message ++ ": line " ++ toString (before.count '\n' + 1)
      ++ " column " ++ toString column ++ " (char " ++ toString before.length ++ ")"
  | .longInteger digits => Text.longIntegerMessage digits

end PrismaNest.Json
