import PrismaNest.Proofs.Text.Numerals
import PrismaNest.Proofs.Yaml.Lexing
import PrismaNest.Yaml.Token.Quoted

/-! Scalars inside brackets, on one line.

Each row of the reader of quoted scalars takes one character, as it is or by an escape. Spaces are
taken as a run, but the run of spaces that a space starts is this space and the run after it, so that
they can be counted one by one as long as no line ends behind them.

A plain scalar of letters, digits, signs and points goes as far as the gap in front of the next comma
or closing bracket. The gap is taken together with the scalar, and is no part of it, whether or not a
line ends in it.
-/

set_option autoImplicit false

namespace PrismaNest.Yaml

/-! ### Quoted scalars -/

section
variable {text rest chars more : List Char} {c d : Char}

/-- The text goes on to a closing quote without a line break. -/
def ClosesOnLine (text : List Char) : Prop :=
  ∃ inner rest, text = inner ++ '"' :: rest ∧ ∀ c ∈ inner, isBreak c = false

theorem doubleQuoted_quote (rest : List Char) : doubleQuoted ('"' :: rest) = .ok ([], rest) := by
  rw [doubleQuoted]

theorem doubleQuoted_character (noQuote : c ≠ '"') (noEscape : c ≠ '\\')
    (noBlank : (isGap c || isBreak c) = false) (rest : List Char) :
    doubleQuoted (c :: rest) = (doubleQuoted rest).after [c] := by
  rw [doubleQuoted, dif_neg (by rw [noBlank]; exact Bool.false_ne_true)]
  · exact noQuote
  · exact fun escape _ => noEscape escape
  · exact fun _ _ escape _ => noEscape escape

theorem doubleQuoted_letter {letter : Char} (meant : letterEscape? letter = some c)
    (rest : List Char) :
    doubleQuoted ('\\' :: letter :: rest) = (doubleQuoted rest).after [c] := by
  rw [doubleQuoted, meant]

theorem takeCode_four {a b e : Char} {code : Nat}
    (meant : Text.digitsValue? 16 [a, b, d, e] = some code)
    (whole : Text.isHighSurrogate code = false) (rest : List Char) :
    takeCode 4 (a :: b :: d :: e :: rest) = .ok (Text.charOf code, rest) := by
  have small : code < 16 ^ 4 := (Text.of_digitsValue? meant).1
  have long : ¬ (a :: b :: d :: e :: rest).length < 4 := by
    simp only [List.length_cons]
    omega
  have digits : (a :: b :: d :: e :: rest).take 4 = [a, b, d, e] := rfl
  rw [takeCode, if_neg long, digits, meant]
  dsimp only
  rw [takeChar, if_neg (by omega), if_neg (by omega), whole]
  rfl

theorem doubleQuoted_code {a b e : Char} {code : Nat}
    (meant : Text.digitsValue? 16 [a, b, d, e] = some code)
    (whole : Text.isHighSurrogate code = false) (rest : List Char) :
    doubleQuoted ('\\' :: 'u' :: a :: b :: d :: e :: rest) =
      (doubleQuoted rest).after [Text.charOf code] := by
  have letter : letterEscape? 'u' = none := rfl
  have size : codeEscape? 'u' = some 4 := rfl
  rw [doubleQuoted, letter]
  dsimp only
  rw [size]
  dsimp only
  split
  · rename_i failed
    rw [takeCode_four meant whole] at failed
    cases failed
  · rename_i taken
    rw [takeCode_four meant whole] at taken
    cases taken
    rfl

/-! ### Spaces -/

theorem Quotation.after_after (first second : List Char) (quotation : Quotation) :
    (quotation.after second).after first = quotation.after (first ++ second) := by
  cases quotation with
  | ok read => simp [Quotation.after, Except.map]
  | error fault => rfl

theorem ClosesOnLine.dropWhile (closes : ClosesOnLine text) :
    ∃ c rest, text.dropWhile isGap = c :: rest ∧ isBreak c = false := by
  obtain ⟨inner, rest, rfl, oneLine⟩ := closes
  induction inner with
  | nil => exact ⟨'"', rest, rfl, rfl⟩
  | cons c inner ih =>
    obtain ⟨first, others⟩ := List.forall_mem_cons.mp oneLine
    by_cases gap : isGap c = true
    · rw [List.cons_append, List.dropWhile_cons_of_pos gap]
      exact ih others
    · exact ⟨c, inner ++ '"' :: rest, by rw [List.cons_append, List.dropWhile_cons_of_neg gap], first⟩

-- A run of spaces is taken at once.
theorem doubleQuoted_gap (gap : isGap c = true) (closes : ClosesOnLine (c :: text)) :
    doubleQuoted (c :: text) = (doubleQuoted ((c :: text).dropWhile isGap)).after
      ((c :: text).takeWhile isGap) := by
  obtain ⟨d, rest, dropped, noBreak⟩ := closes.dropWhile
  have other : ∀ e, isGap e = false → c ≠ e := by
    rintro e noGap rfl
    exact Bool.false_ne_true (noGap.symm.trans gap)
  have space : takeSpace (c :: text) = some ((c :: text).takeWhile isGap, d :: rest) := by
    rw [takeSpace, dropped]
    dsimp only
    rw [noBreak, if_neg Bool.false_ne_true]
  rw [doubleQuoted, dif_pos (by rw [gap, Bool.true_or]), dropped]
  · split
    · rename_i none
      rw [space] at none
      cases none
    · rename_i taken
      rw [space] at taken
      cases taken
      rfl
  · exact other '"' rfl
  · exact fun escape _ => other '\\' rfl escape
  · exact fun _ _ escape _ => other '\\' rfl escape

theorem doubleQuoted_space (closes : ClosesOnLine text) :
    doubleQuoted (' ' :: text) = (doubleQuoted text).after [' '] := by
  have further : ClosesOnLine (' ' :: text) := by
    obtain ⟨inner, rest, rfl, oneLine⟩ := closes
    exact ⟨' ' :: inner, rest, rfl, List.forall_mem_cons.mpr ⟨rfl, oneLine⟩⟩
  rw [doubleQuoted_gap rfl further, List.dropWhile_cons_of_pos rfl, List.takeWhile_cons_of_pos rfl]
  cases text with
  | nil =>
    obtain ⟨inner, rest, same, -⟩ := closes
    exact absurd same (by simp)
  | cons c text =>
    by_cases gap : isGap c = true
    · rw [doubleQuoted_gap gap closes, Quotation.after_after]
      rfl
    · rw [List.dropWhile_cons_of_neg gap, List.takeWhile_cons_of_neg gap]

end

/-! ### Plain scalars -/

open Text (StartsOutside dropWhile_run takeWhile_run)

variable {text gap rest : List Char} {c d : Char}

/-- The characters that end a plain scalar inside brackets, after a gap or without one. -/
def endsScalar (c : Char) : Bool :=
  c = ',' || c = ']' || c = '\x7d'

/-- The characters of a plain scalar that mean nothing by themselves. -/
def isWordPart (c : Char) : Bool :=
  c.isAlphanum || c = '.' || c = '-' || c = '+'

theorem endsRun_wordPart (part : isWordPart c = true) (rest : List Char) :
    endsRun true c rest = false := by
  have other : ∀ d, isWordPart d = false → c ≠ d := by
    rintro d noPart rfl
    exact Bool.false_ne_true (noPart.symm.trans part)
  simp [endsRun, isGap, isBreak, isBracket, other ' ' rfl, other '\t' rfl, other '\n' rfl,
    other '\u2028' rfl, other '\u2029' rfl, other ':' rfl, other ',' rfl, other '?' rfl,
    other '[' rfl, other ']' rfl, other '\x7b' rfl, other '\x7d' rfl]

theorem takeRun_word (word : ∀ c ∈ text, isWordPart c = true) (stop : endsRun true d rest = true) :
    takeRun true (text ++ d :: rest) = (text, d :: rest) := by
  induction text with
  | nil => rw [List.nil_append, takeRun, if_pos stop]
  | cons c text ih =>
    obtain ⟨first, others⟩ := List.forall_mem_cons.mp word
    rw [List.cons_append, takeRun, endsRun_wordPart first, if_neg Bool.false_ne_true, ih others]

theorem atMark_of_ne {mark : Char} (other : c ≠ mark) (rest : List Char) :
    atMark mark (c :: rest) = false := by
  rcases rest with _ | ⟨_, _ | ⟨_, rest⟩⟩
  · rfl
  · rfl
  · simp [atMark, other]

theorem atDocumentMark_of_ne (noDash : c ≠ '-') (noPoint : c ≠ '.') (rest : List Char) :
    atDocumentMark (c :: rest) = false := by
  rw [atDocumentMark, atMark_of_ne noDash, atMark_of_ne noPoint, Bool.or_self]

theorem apart_of_endsScalar (ends : endsScalar d = true) (rest : List Char) :
    d ≠ ' ' ∧ d ≠ '#' ∧ isBreak d = false ∧ endsRun true d rest = true ∧
      atDocumentMark (d :: rest) = false := by
  simp only [endsScalar, Bool.or_eq_true, decide_eq_true_eq] at ends
  rcases ends with (rfl | rfl) | rfl
  all_goals
    exact ⟨by decide, by decide, rfl, rfl, atDocumentMark_of_ne (by decide) (by decide) rest⟩

-- No document starts or ends inside a gap.
theorem atDocumentMark_gap (blank : IsBlank gap) (ends : endsScalar d = true) (rest : List Char) :
    atDocumentMark (gap ++ d :: rest) = false := by
  cases gap with
  | nil => exact (apart_of_endsScalar ends rest).2.2.2.2
  | cons c gap =>
    rcases (List.forall_mem_cons.mp blank).1 with rfl | rfl
    all_goals exact atDocumentMark_of_ne (by decide) (by decide) _

theorem rest_takePlainBreaks (blank : IsBlank gap) (ends : endsScalar d = true)
    (breaks : List Char) (column : Nat) :
    (takePlainBreaks breaks column (gap ++ d :: rest)).rest = d :: rest := by
  induction gap generalizing breaks column with
  | nil =>
    obtain ⟨noSpace, -, noBreak, -⟩ := apart_of_endsScalar ends rest
    rw [List.nil_append, takePlainBreaks, if_neg noSpace, noBreak, if_neg Bool.false_ne_true]
  | cons c gap ih =>
    obtain ⟨first, others⟩ := List.forall_mem_cons.mp blank
    rw [List.cons_append, takePlainBreaks]
    rcases first with rfl | rfl
    · exact ih others _ _
    · rw [atDocumentMark_gap others ends]
      exact ih others _ _

theorem rest_takePlainSpace_space (text : List Char) :
    (takePlainSpace (' ' :: text)).rest = (takePlainSpace text).rest := by
  rw [takePlainSpace, takePlainSpace, List.dropWhile_cons_of_pos rfl]
  cases text.dropWhile (· = ' ') with
  | nil => rfl
  | cons c rest =>
    dsimp only
    split
    · rfl
    · split <;> rfl

theorem rest_takePlainSpace (blank : IsBlank gap) (ends : endsScalar d = true) :
    (takePlainSpace (gap ++ d :: rest)).rest = d :: rest := by
  induction gap with
  | nil =>
    obtain ⟨noSpace, -, noBreak, -⟩ := apart_of_endsScalar ends rest
    rw [List.nil_append, takePlainSpace, List.dropWhile_cons_of_neg (by simpa using noSpace)]
    simp only [noBreak, Bool.not_false, ↓reduceIte]
  | cons c gap ih =>
    obtain ⟨first, others⟩ := List.forall_mem_cons.mp blank
    rw [List.cons_append]
    rcases first with rfl | rfl
    · rw [rest_takePlainSpace_space, ih others]
    · rw [takePlainSpace, List.dropWhile_cons_of_neg (by decide)]
      dsimp only
      rw [atDocumentMark_gap others ends]
      exact rest_takePlainBreaks others ends _ _

-- After the gap the scalar could go on, but no further character belongs to it.
theorem takePlain_end (ends : endsScalar d = true) (least : Int) (before : List Char)
    (crossed : Bool) : takePlain true least before crossed (d :: rest) = ⟨[], crossed, d :: rest⟩ := by
  obtain ⟨-, -, -, stop, -⟩ := apart_of_endsScalar ends rest
  have nothing : (takeRun true (d :: rest)).1 = [] := by
    rw [takeRun, if_pos stop]
  rw [takePlain, dif_pos (by rw [nothing, List.isEmpty_nil, Bool.or_true])]

theorem endsRun_gap (blank : IsBlank gap) (ends : endsScalar d = true) (rest : List Char) :
    ∃ c more, gap ++ d :: rest = c :: more ∧ endsRun true c more = true := by
  cases gap with
  | nil => exact ⟨d, rest, rfl, (apart_of_endsScalar ends rest).2.2.2.1⟩
  | cons c gap =>
    refine ⟨c, gap ++ d :: rest, rfl, ?_⟩
    rcases (List.forall_mem_cons.mp blank).1 with rfl | rfl <;> rfl

theorem takePlain_word (word : ∀ c ∈ text, isWordPart c = true) (written : text ≠ [])
    (blank : IsBlank gap) (ends : endsScalar d = true) (least : Int) : ∃ crossed,
      takePlain true least [] false (text ++ (gap ++ d :: rest)) = ⟨text, crossed, d :: rest⟩ := by
  obtain ⟨c, more, split, stop⟩ := endsRun_gap blank ends rest
  have run : takeRun true (text ++ (gap ++ d :: rest)) = (text, gap ++ d :: rest) := by
    rw [split, takeRun_word word stop]
  have noComment : (text ++ (gap ++ d :: rest)).head? ≠ some '#' := by
    rw [List.head?_append_of_ne_nil _ written]
    intro first
    have part := word '#' (List.mem_of_head? first)
    cases part
  have starts : ¬ ((text ++ (gap ++ d :: rest)).head? == some '#' ||
      (takeRun true (text ++ (gap ++ d :: rest))).1.isEmpty) = true := by
    rw [run, Bool.or_eq_true, not_or, beq_iff_eq, List.isEmpty_iff]
    exact ⟨noComment, written⟩
  rw [takePlain, dif_neg starts]
  simp only [run, rest_takePlainSpace blank ends, takePlain_end ends, List.nil_append,
    List.append_nil]
  split
  · exact ⟨_, rfl⟩
  · exact ⟨_, rfl⟩

/-! ### The token of a plain scalar -/

namespace Lexer

variable {lexer : Lexer} {depth : Nat} {tokens : List Token}

/-- The text starts a plain scalar with a letter, a digit, or a sign in front of a digit. -/
inductive StartsWord : List Char → Prop where
  | letter {c : Char} {rest : List Char} (first : c.isAlphanum = true) : StartsWord (c :: rest)
  | sign {d : Char} {rest : List Char} (second : d.isDigit = true) : StartsWord ('-' :: d :: rest)

theorem takeToken_letter (first : c.isAlphanum = true) (rest : List Char) :
    lexer.takeToken c rest = lexer.takePlainScalar := by
  have other : ∀ d, d.isAlphanum = false → c ≠ d := by
    rintro d noLetter rfl
    exact Bool.false_ne_true (noLetter.symm.trans first)
  simp [takeToken, startsPlain, isGap, isBreak, other '%' rfl, other '-' rfl, other '.' rfl,
    other '[' rfl, other ']' rfl, other '\x7b' rfl, other '\x7d' rfl, other ',' rfl, other '?' rfl,
    other ':' rfl, other '*' rfl, other '&' rfl, other '!' rfl, other '|' rfl, other '>' rfl,
    other '\x27' rfl, other '"' rfl, other ' ' rfl, other '\t' rfl, other '\n' rfl,
    other '\u2028' rfl, other '\u2029' rfl, other '#' rfl, other '@' rfl, other '\x60' rfl]

theorem takeToken_sign (second : d.isDigit = true) (rest : List Char) :
    lexer.takeToken '-' (d :: rest) = lexer.takePlainScalar := by
  have other : ∀ e, e.isDigit = false → d ≠ e := by
    rintro e noDigit rfl
    exact Bool.false_ne_true (noDigit.symm.trans second)
  have noMark : atMark '-' ('-' :: d :: rest) = false := by
    rcases rest with _ | ⟨_, rest⟩ <;> simp [atMark, other '-' rfl]
  have noGap : atGap (d :: rest) = false := by
    simp [atGap, atSpace, atBreak, isBreak, other ' ' rfl, other '\t' rfl, other '\n' rfl,
      other '\u2028' rfl, other '\u2029' rfl]
  simp [takeToken, startsPlain, noMark, noGap]

theorem takeToken_word (starts : StartsWord (c :: rest)) :
    lexer.takeToken c rest = lexer.takePlainScalar := by
  cases starts with
  | letter first => exact takeToken_letter first rest
  | sign second => exact takeToken_sign second _

theorem opensToken_wordPart (part : isWordPart c = true) : opensToken c = true := by
  have other : ∀ d, isWordPart d = false → c ≠ d := by
    rintro d noPart rfl
    exact Bool.false_ne_true (noPart.symm.trans part)
  simp [opensToken, isBreak, other ' ' rfl, other '#' rfl, other '\n' rfl, other '\u2028' rfl,
    other '\u2029' rfl]

theorem At.plain (before : lexer.At (depth + 1) tokens (text ++ (gap ++ d :: rest)))
    (starts : StartsWord (text ++ (gap ++ d :: rest))) (word : ∀ c ∈ text, isWordPart c = true)
    (written : text ≠ []) (blank : IsBlank gap) (ends : endsScalar d = true) :
    lexer.Reaches (At · (depth + 1) (tokens ++ [.scalar (String.ofList text) true]) (d :: rest)) := by
  obtain ⟨keys, optional, noted⟩ := before.flat.ready.noteKey
  obtain ⟨crossed, read⟩ := @takePlain_word text gap rest d word written blank ends
    (lexer.ready.indent + 1)
  obtain ⟨c, more, rfl⟩ := List.exists_cons_of_ne_nil written
  have opens := opensToken_wordPart (word c List.mem_cons_self)
  obtain ⟨skipped, blankBefore, there⟩ := before.written
  have left : lexer.ready.cursor.rest = c :: more ++ (gap ++ d :: rest) :=
    rest_ready there blankBefore opens
  have flow : ({ lexer.ready with keys } : Lexer).inFlow = true := before.inFlow
  have split : more ++ (gap ++ d :: rest) = (more ++ gap) ++ d :: rest := by simp
  obtain rfl := before.tokens
  have taken := @takeToken_word _ _ lexer.ready starts
  rw [takePlainScalar, noted] at taken
  simp only [bind, Except.bind, flow, left, read] at taken
  exact (before.step opens split optional taken).mono fun next stepped => before.depth ▸ stepped.toAt

end Lexer

end PrismaNest.Yaml
