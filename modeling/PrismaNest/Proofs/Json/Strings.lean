import PrismaNest.Data.Json.Printer
import PrismaNest.Data.Json.Reader

/-! Strings of a document are read as they were written.

Each character is written as itself or as one of the escapes that are read as this character. So a
string ends at the quote that closes it, whatever it holds.
-/

set_option autoImplicit false

namespace PrismaNest.Json

/-- A reader takes a value off the front of a text, and leaves the rest. -/
def Takes {α : Type} {text : List Char} (read : Except Fault (α × Shorter text)) (value : α)
    (rest : List Char) : Prop :=
  ∃ shorter, read = .ok (value, ⟨rest, shorter⟩)

variable {opening text rest chars : List Char} {c : Char}

theorem takes_readString_quote (opening rest : List Char) :
    Takes (readString opening ('"' :: rest)) [] rest := by
  rw [readString]
  exact ⟨_, rfl⟩

theorem Takes.after {inner : List Char} {read : StringRead inner} (taken : Takes read chars rest)
    (c : Char) (bound : inner.length ≤ text.length) :
    Takes (read.after c bound : StringRead text) (c :: chars) rest := by
  obtain ⟨shorter, rfl⟩ := taken
  exact ⟨_, rfl⟩

theorem Takes.ne_nil {α : Type} {read : Except Fault (α × Shorter text)} {value : α}
    (taken : Takes read value rest) : text ≠ [] := by
  obtain ⟨shorter, -⟩ := taken
  rintro rfl
  exact Nat.not_lt_zero _ shorter

-- The rows of the reader: a character as itself, a short escape, and the escape by code point.
theorem Takes.character (taken : Takes (readString opening text) chars rest) (noQuote : c ≠ '"')
    (noEscape : c ≠ '\\') (shown : ¬ c.toNat < 0x20) :
    Takes (readString opening (c :: text)) (c :: chars) rest := by
  rw [readString, if_neg shown]
  · exact taken.after c _
  · exact noQuote
  · exact fun _ _ _ _ _ _ escape _ => noEscape escape
  · exact fun _ escape _ => noEscape escape
  · exact fun escape _ => noEscape escape
  · exact fun _ _ escape _ => noEscape escape

theorem Takes.shortEscape {letter : Char} (taken : Takes (readString opening text) chars rest)
    (meant : simpleEscape? letter = some c) :
    Takes (readString opening ('\\' :: letter :: text)) (c :: chars) rest := by
  have noCodePoint : letter ≠ 'u' := by
    rintro rfl
    cases meant
  rw [readString, meant]
  · exact taken.after c _
  · exact fun _ _ _ _ _ _ codePoint _ => noCodePoint codePoint
  · exact noCodePoint

theorem Takes.codePoint {a b d e : Char} {code : Nat}
    (taken : Takes (readString opening text) chars rest) (meant : codePoint? a b d e = some code)
    (whole : Text.isHighSurrogate code = false) :
    Takes (readString opening ('\\' :: 'u' :: a :: b :: d :: e :: text)) (Text.charOf code :: chars)
      rest := by
  obtain ⟨next, more, rfl⟩ := List.exists_cons_of_ne_nil taken.ne_nil
  rw [readString, meant]
  simp only [whole, Bool.false_eq_true, ↓reduceIte]
  exact taken.after _ _

theorem codePoint?_hexPadded : ∀ code < 0x20, ∃ a b d e,
    Text.hexPadded 4 code = [a, b, d, e] ∧ codePoint? a b d e = some code := by
  have spelled : ∀ code < 0x20,
      Text.hexPadded 4 code = ['0', '0', Nat.digitChar (code / 16), Nat.digitChar (code % 16)] ∧
        codePoint? '0' '0' (Nat.digitChar (code / 16)) (Nat.digitChar (code % 16)) = some code := by
    decide
  intro code small
  exact ⟨'0', '0', _, _, spelled code small⟩

theorem charOf_control (control : c.toNat < 0x20) :
    Text.isHighSurrogate c.toNat = false ∧ Text.charOf c.toNat = c := by
  have whole : Text.isHighSurrogate c.toNat = false := by
    simp only [Text.isHighSurrogate, Bool.and_eq_false_iff, decide_eq_false_iff_not]
    omega
  have noHalf : Text.isLowSurrogate c.toNat = false := by
    simp only [Text.isLowSurrogate, Bool.and_eq_false_iff, decide_eq_false_iff_not]
    omega
  exact ⟨whole, by simp [Text.charOf, whole, noHalf]⟩

/-- The characters that are written with a letter, and their letters. -/
def shortEscapes : List (Char × Char) :=
  [('"', '"'), ('\\', '\\'), ('\n', 'n'), ('\r', 'r'), ('\t', 't'), ('\x08', 'b'), ('\x0C', 'f')]

theorem escapeChar_short : ∀ escape ∈ shortEscapes,
    escapeChar escape.1 = ['\\', escape.2] ∧ simpleEscape? escape.2 = some escape.1 := by
  decide

theorem escapeChar_other (other : c ∉ shortEscapes.map Prod.fst) :
    escapeChar c = if c.toNat < 0x20 then '\\' :: 'u' :: Text.hexPadded 4 c.toNat else [c] := by
  simp only [shortEscapes, List.map_cons, List.map_nil, List.mem_cons, List.not_mem_nil, or_false,
    not_or] at other
  simp only [escapeChar, other, decide_false, Bool.or_false, Bool.false_eq_true, ↓reduceIte]

theorem Takes.escapeChar (taken : Takes (readString opening text) chars rest) (c : Char) :
    Takes (readString opening (escapeChar c ++ text)) (c :: chars) rest := by
  by_cases short : c ∈ shortEscapes.map Prod.fst
  · obtain ⟨⟨_, letter⟩, listed, rfl⟩ := List.mem_map.mp short
    obtain ⟨written, meant⟩ := escapeChar_short _ listed
    rw [written]
    exact taken.shortEscape meant
  · have written := escapeChar_other short
    by_cases control : c.toNat < 0x20
    · obtain ⟨a, b, d, e, digits, meant⟩ := codePoint?_hexPadded c.toNat control
      obtain ⟨whole, same⟩ := charOf_control control
      have read := taken.codePoint meant whole
      rw [same] at read
      rw [written, if_pos control, digits]
      exact read
    · simp only [shortEscapes, List.map_cons, List.mem_cons, not_or] at short
      rw [written, if_neg control]
      exact taken.character short.1 short.2.1 control

-- A string ends at its closing quote, whatever it holds.
theorem takes_readString (opening chars rest : List Char) :
    Takes (readString opening (chars.flatMap Json.escapeChar ++ '"' :: rest)) chars rest := by
  induction chars with
  | nil => exact takes_readString_quote opening rest
  | cons c chars ih =>
    rw [List.flatMap_cons, List.append_assoc]
    exact ih.escapeChar c

end PrismaNest.Json
