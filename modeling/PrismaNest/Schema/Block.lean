import PrismaNest.Text.Blank
import PrismaNest.Text.Lines
import PrismaNest.Text.WordChar

/-! Blocks of a schema text: a keyword, a name, and a body between braces.

A block runs to the first closing brace after its opening one. Blocks are found
from left to right and do not overlap; a keyword that no block follows is skipped.
The body is read line by line, without blank lines and comment lines.
-/

set_option autoImplicit false

namespace PrismaNest

structure Block where
  name : List Char
  body : List Char
  deriving DecidableEq, Repr

namespace Block

open Text

def afterKeyword? (keyword text : List Char) : Option (List Char) :=
  if keyword.isPrefixOf text then some (text.drop keyword.length) else none

/-- The name after a keyword and what follows the opening brace. -/
def header? (text : List Char) : Option (List Char × List Char) :=
  if (text.head?.any isBlank) then
    let named := text.dropWhile isBlank
    let name := named.takeWhile isWordChar
    match (named.dropWhile isWordChar).dropWhile isBlank with
    | '{' :: content => if name.isEmpty then none else some (name, content)
    | _ => none
  else none

def read? (keyword text : List Char) : Option (Block × List Char) :=
  match (afterKeyword? keyword text).bind header? with
  | none => none
  | some (name, content) =>
    match content.dropWhile (· ≠ '}') with
    | [] => none
    | _ :: rest => some (⟨name, content.takeWhile (· ≠ '}')⟩, rest)

theorem length_afterKeyword?_le {keyword text rest : List Char}
    (found : afterKeyword? keyword text = some rest) : rest.length ≤ text.length := by
  unfold afterKeyword? at found
  split at found
  · cases found; simp
  · cases found

theorem length_dropWhile_le (p : Char → Bool) (text : List Char) :
    (text.dropWhile p).length ≤ text.length :=
  (List.dropWhile_suffix p).length_le

theorem length_header?_lt {text name content : List Char}
    (found : header? text = some (name, content)) : content.length < text.length := by
  simp only [header?] at found
  split at found
  · split at found
    · rename_i opened
      have bound := length_dropWhile_le isBlank ((text.dropWhile isBlank).dropWhile isWordChar)
      have inner := length_dropWhile_le isWordChar (text.dropWhile isBlank)
      have outer := length_dropWhile_le isBlank text
      rw [opened] at bound
      split at found
      · cases found
      · cases found
        simp only [List.length_cons] at bound
        omega
    · cases found
  · cases found

theorem length_read?_lt {keyword text rest : List Char} {block : Block}
    (found : read? keyword text = some (block, rest)) : rest.length < text.length := by
  unfold read? at found
  split at found
  · cases found
  · rename_i name content header
    obtain ⟨after, keywordFound, headerFound⟩ := Option.bind_eq_some_iff.mp header
    have first := length_afterKeyword?_le keywordFound
    have second := length_header?_lt headerFound
    split at found
    · cases found
    · rename_i closing
      have third := length_dropWhile_le (· ≠ '}') content
      rw [closing] at third
      cases found
      simp only [List.length_cons] at third
      omega

/-- The blocks of a text, given whether a word character stands right before it. -/
def extractFrom (keyword : List Char) (insideWord : Bool) (text : List Char) : List Block :=
  match text with
  | [] => []
  | c :: after =>
    match _found : if insideWord then none else read? keyword (c :: after) with
    | some (block, rest) => block :: extractFrom keyword false rest
    | none => extractFrom keyword (isWordChar c) after
termination_by text.length
decreasing_by
  · have started : insideWord = false := by
      cases insideWord with
      | true => simp at _found
      | false => rfl
    rw [started] at _found
    exact length_read?_lt _found
  · simp

def extract (keyword : String) (text : List Char) : List Block :=
  extractFrom keyword.toList false text

def models (text : List Char) : List Block :=
  extract "model" text

def enums (text : List Char) : List Block :=
  extract "enum" text

end Block

def isCommentLine (line : List Char) : Bool :=
  "//".toList.isPrefixOf line

/-- The trimmed lines of a body that are neither blank nor comments. -/
def bodyLines (body : List Char) : List (List Char) :=
  ((Text.lines body).map Text.trim).filter fun line => !line.isEmpty && !isCommentLine line

end PrismaNest
