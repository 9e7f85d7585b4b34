import PrismaNest.Text.CodePoint
import PrismaNest.Yaml.Token

/-! Quoted scalars.

Between single quotes only a quote is written specially, by two. Between double
quotes a backslash opens an escape. A line break inside becomes a space, further
ones stay; the blanks around line breaks are dropped. Each reader gives the
characters and what follows the closing quote.

An escape for half of a code point gives no half, since texts consist of whole
characters: with the escape of the other half it gives one character, and otherwise the
replacement character.
-/

set_option autoImplicit false

namespace PrismaNest.Yaml

/-- The breaks from here on with the blanks around them, up to other text. A document mark at
the start of a line is refused. -/
def takeBreaks (lineStart : Bool) (text : List Char) : Option (List Char × List Char) :=
  if lineStart && atDocumentMark text then none
  else
    match text with
    | [] => some ([], [])
    | c :: rest =>
      if isGap c then takeBreaks false rest
      else if isBreak c then (takeBreaks true rest).map fun (breaks, after) => (c :: breaks, after)
      else some ([], c :: rest)

theorem length_takeBreaks_le {lineStart : Bool} {text breaks after : List Char}
    (taken : takeBreaks lineStart text = some (breaks, after)) : after.length ≤ text.length := by
  induction text generalizing lineStart breaks with
  | nil =>
    unfold takeBreaks at taken
    split at taken
    · cases taken
    · cases taken; simp
  | cons c rest ih =>
    unfold takeBreaks at taken
    split at taken
    · cases taken
    · simp only at taken
      split at taken
      · exact Nat.le_succ_of_le (ih taken)
      · split at taken
        · obtain ⟨⟨inner, last⟩, found, same⟩ := Option.map_eq_some_iff.mp taken
          cases same
          exact Nat.le_succ_of_le (ih found)
        · cases taken; simp

def folded (first : Char) (more : List Char) : List Char :=
  if first ≠ '\n' then first :: more
  else if more.isEmpty then [' ']
  else more

/-- What blanks and breaks inside a quoted scalar stand for, and the text after them. -/
def takeSpace (text : List Char) : Option (List Char × List Char) :=
  match text.dropWhile isGap with
  | [] => none
  | c :: rest =>
    if isBreak c then (takeBreaks true rest).map fun (more, after) => (folded c more, after)
    else some (text.takeWhile isGap, c :: rest)

theorem length_takeSpace_lt {c : Char} {rest space after : List Char}
    (blank : (isGap c || isBreak c) = true) (taken : takeSpace (c :: rest) = some (space, after)) :
    after.length < (c :: rest).length := by
  have bound := (List.dropWhile_suffix (l := c :: rest) isGap).length_le
  unfold takeSpace at taken
  split at taken
  · cases taken
  · rename_i d tail dropped
    rw [dropped] at bound
    simp only [List.length_cons] at *
    split at taken
    · obtain ⟨⟨more, last⟩, found, same⟩ := Option.map_eq_some_iff.mp taken
      cases same
      have := length_takeBreaks_le found
      dsimp only
      omega
    · rename_i notBreak
      cases taken
      simp only [List.length_cons]
      by_cases gap : isGap c = true
      · simp only [List.dropWhile_cons, gap, if_true] at dropped
        have inner := (List.dropWhile_suffix (l := rest) isGap).length_le
        rw [dropped] at inner
        simp only [List.length_cons] at inner
        omega
      · simp only [List.dropWhile_cons, gap, if_false, Bool.false_eq_true, List.cons.injEq]
          at dropped
        obtain ⟨same, _⟩ := dropped
        subst same
        simp_all

/-- A reading of a quoted scalar: its characters, and what is left of the text. -/
abbrev Quotation := Read (List Char × List Char)

def Quotation.after (chars : List Char) (quotation : Quotation) : Quotation :=
  quotation.map fun (read, rest) => (chars ++ read, rest)

def singleQuoted (text : List Char) : Quotation :=
  match text with
  | [] => malformed
  | '\x27' :: '\x27' :: rest => (singleQuoted rest).after ['\x27']
  | '\x27' :: rest => .ok ([], rest)
  | c :: rest =>
    if blank : (isGap c || isBreak c) = true then
      match taken : takeSpace (c :: rest) with
      | none => malformed
      | some (space, after) =>
        have := length_takeSpace_lt blank taken
        (singleQuoted after).after space
    else (singleQuoted rest).after [c]
termination_by text.length
decreasing_by all_goals (simp only [List.length_cons] at *; omega)

/-- The characters that a letter after a backslash stands for. -/
def letterEscape? : Char → Option Char
  | '0' => some '\x00'
  | 'a' => some '\x07'
  | 'b' => some '\x08'
  | 't' | '\t' => some '\t'
  | 'n' => some '\n'
  | 'v' => some '\x0B'
  | 'f' => some '\x0C'
  | 'r' => some '\r'
  | 'e' => some '\x1B'
  | ' ' => some ' '
  | '"' => some '"'
  | '\\' => some '\\'
  | '/' => some '/'
  | 'N' => some '\u0085'
  | '_' => some '\u00A0'
  | 'L' => some '\u2028'
  | 'P' => some '\u2029'
  | _ => none

/-- How many hexadecimal digits follow a letter after a backslash. -/
def codeEscape? : Char → Option Nat
  | 'x' => some 2
  | 'u' => some 4
  | 'U' => some 8
  | _ => none

/-- The second half of a surrogate pair, given by an escape of its own. -/
def lowSurrogate? : List Char → Option (Nat × List Char)
  | '\\' :: 'u' :: a :: b :: c :: d :: rest =>
    (Text.digitsValue? 16 [a, b, c, d]).bind fun code =>
      if Text.isLowSurrogate code then some (code, rest) else none
  | _ => none

theorem length_lowSurrogate?_lt {code : Nat} {text rest : List Char}
    (found : lowSurrogate? text = some (code, rest)) : rest.length < text.length := by
  unfold lowSurrogate? at found
  split at found
  · obtain ⟨_, _, same⟩ := Option.bind_eq_some_iff.mp found
    split at same
    · cases same
      simp only [List.length_cons]
      omega
    · cases same
  · cases found

/-- The character of a code point, and what follows it. The code point may be half of one. -/
def takeChar (code : Nat) (text : List Char) : Read (Char × List Char) :=
  if 0x80000000 ≤ code then .error (.scalar .wideCodePoint)
  else if 0x110000 ≤ code then .error (.scalar .codePoint)
  else
    match if Text.isHighSurrogate code then lowSurrogate? text else none with
    | some (low, rest) => .ok (Text.joinedSurrogates code low, rest)
    | none => .ok (Text.charOf code, text)

theorem length_takeChar_le {code : Nat} {c : Char} {text rest : List Char}
    (taken : takeChar code text = .ok (c, rest)) : rest.length ≤ text.length := by
  unfold takeChar at taken
  split at taken
  · cases taken
  · split at taken
    · cases taken
    · split at taken
      · rename_i found
        split at found
        · have := length_lowSurrogate?_lt found
          injection taken with same
          injection same with _ same
          subst same
          omega
        · cases found
      · injection taken with same
        injection same with _ same
        exact same ▸ Nat.le_refl _

def takeCode (size : Nat) (text : List Char) : Read (Char × List Char) :=
  if text.length < size then malformed
  else
    match Text.digitsValue? 16 (text.take size) with
    | none => malformed
    | some code => takeChar code (text.drop size)

theorem length_takeCode_le {size : Nat} {c : Char} {text rest : List Char}
    (taken : takeCode size text = .ok (c, rest)) : rest.length ≤ text.length := by
  unfold takeCode at taken
  split at taken
  · cases taken
  · split at taken
    · cases taken
    · have bound := length_takeChar_le taken
      simp only [List.length_drop] at bound
      omega

def doubleQuoted (text : List Char) : Quotation :=
  match text with
  | [] => malformed
  | '"' :: rest => .ok ([], rest)
  | ['\\'] => malformed
  | '\\' :: c :: rest =>
    match letterEscape? c with
    | some meant => (doubleQuoted rest).after [meant]
    | none =>
      match codeEscape? c with
      | some size =>
        match taken : takeCode size rest with
        | .error fault => .error fault
        | .ok (meant, after) =>
          have := length_takeCode_le taken
          (doubleQuoted after).after [meant]
      | none =>
        if isBreak c then
          match taken : takeBreaks true rest with
          | none => malformed
          | some (breaks, after) =>
            have := length_takeBreaks_le taken
            (doubleQuoted after).after breaks
        else malformed
  | c :: rest =>
    if blank : (isGap c || isBreak c) = true then
      match taken : takeSpace (c :: rest) with
      | none => malformed
      | some (space, after) =>
        have := length_takeSpace_lt blank taken
        (doubleQuoted after).after space
    else (doubleQuoted rest).after [c]
termination_by text.length
decreasing_by all_goals (simp only [List.length_cons] at *; omega)

end PrismaNest.Yaml
