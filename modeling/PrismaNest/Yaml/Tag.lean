import PrismaNest.Naming.Words
import PrismaNest.Yaml.Timestamp

/-! Tags: what kind of value a node stands for.

A plain scalar without a tag has the tag of the first form that it matches: truth
values, numbers with a point, whole numbers, the merge key, null, dates and times,
and the default key. Anything else is text. A line feed at the very end is tolerated,
which only a scalar whose tag leaves the choice to its content can have.

No plain scalar is binary data, a set, an ordered map or a list of pairs. These four
kinds can only be asked for by an explicit tag, and their values are not described: their
tags are unknown here, and a text that uses one is refused.
-/

set_option autoImplicit false

namespace PrismaNest.Yaml

inductive Tag where
  | null
  | bool
  | int
  | float
  | timestamp
  | text
  | sequence
  | mapping
  | merge
  | default
  | unknown
  deriving DecidableEq, Repr

namespace Tag

def table : List (String × Tag) :=
  [("null", null), ("bool", bool), ("int", int), ("float", float), ("timestamp", timestamp),
   ("str", text), ("seq", sequence), ("map", mapping), ("merge", merge), ("value", default)]

def ofName (name : String) : Tag :=
  (table.find? fun entry => "tag:yaml.org,2002:" ++ entry.1 = name).elim unknown Prod.snd

end Tag

/-- The spellings of a word: small, with a capital, and in capitals. -/
def spellings (word : String) : List String :=
  [word, Naming.capitalize word, String.ofList (word.toList.map Char.toUpper)]

def trueWords : List String :=
  ["yes", "true", "on"].flatMap spellings

def falseWords : List String :=
  ["no", "false", "off"].flatMap spellings

def nullWords : List String :=
  ["~"] ++ spellings "null"

/-- The signs of tags, anchors and aliases, which mean nothing alone. -/
def loneSigns : List String :=
  ["!", "&", "*"]

def unsigned : List Char → List Char
  | c :: rest => if c = '-' || c = '+' then rest else c :: rest
  | [] => []

def isDigits : List Char → Bool
  | [] => false
  | c :: rest => c.isDigit && rest.all fun d => d.isDigit || d = '_'

def isRun (p : Char → Bool) (text : List Char) : Bool :=
  !text.isEmpty && text.all fun c => p c || c = '_'

/-- A number below sixty, in one or two digits. -/
def isSixtieth : List Char → Bool
  | [a] => a.isDigit
  | [a, b] => '0' ≤ a && a ≤ '5' && b.isDigit
  | _ => false

/-- Whole numbers: binary, octal, decimal, hexadecimal, and with parts of sixty. -/
def isInt (text : List Char) : Bool :=
  match unsigned text with
  | ['0'] => true
  | '0' :: 'b' :: digits => isRun (fun c => c = '0' || c = '1') digits
  | '0' :: 'x' :: digits => isRun isHexDigit digits
  | '0' :: digits => isRun (fun c => '0' ≤ c && c ≤ '7') digits
  | digits =>
    match digits.splitOnP (· = ':') with
    | whole :: sixtieths => isDigits whole && sixtieths.all isSixtieth
    | [] => false

def isExponent : List Char → Bool
  | [] => true
  | e :: sign :: digits =>
    (e = 'e' || e = 'E') && (sign = '-' || sign = '+') && !digits.isEmpty && digits.all Char.isDigit
  | _ => false

def isFraction (text : List Char) : Bool :=
  isExponent (text.dropWhile fun c => c.isDigit || c = '_')

/-- A number with a point: digits on both sides, only before it, or only after it; infinity,
no number, and numbers with parts of sixty. Without digits before the point there is no sign. -/
def isFloat (text : List Char) : Bool :=
  let bare := unsigned text
  let whole := bare.takeWhile (· ≠ '.')
  match bare.dropWhile (· ≠ '.') with
  | [] => false
  | _ :: fraction =>
    if whole.isEmpty then
      ((spellings "inf").map String.toList).contains fraction
        || text = bare && (["nan", "NaN", "NAN"].map String.toList).contains fraction
        || text = bare && fraction.head?.any Char.isDigit && isFraction fraction
    else
      match whole.splitOnP (· = ':') with
      | first :: sixtieths =>
        isDigits first && sixtieths.all isSixtieth
          && (if sixtieths.isEmpty then isFraction fraction
            else fraction.all fun c => c.isDigit || c = '_')
      | [] => false

def Tag.ofPlain (content : String) : Tag :=
  let chars := Text.withoutLastBreak content.toList
  let word := String.ofList chars
  if content = "" then null
  else if trueWords.contains word || falseWords.contains word then bool
  else if isFloat chars then float
  else if isInt chars then int
  else if word = "<<" then merge
  else if nullWords.contains word then null
  else if (Timestamp.ofText? content.toList).any (·.isResolved) then timestamp
  else if word = "=" then default
  else if loneSigns.contains word then unknown
  else text

end PrismaNest.Yaml
