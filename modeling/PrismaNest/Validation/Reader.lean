import PrismaNest.Text.Blank
import PrismaNest.Text.DecimalDigit
import PrismaNest.Validation.Issue

/-! Reading values as the types of record fields.

Texts are taken as they are. Truth values and whole numbers are also read from
numbers that equal them and from texts that spell them.
-/

set_option autoImplicit false

namespace PrismaNest.Value

def readText : Value → Checked String
  | .text content => .ok content
  | _ => .refuse .notText

def readNonemptyText (value : Value) : Checked String :=
  match value.readText with
  | .ok content => if content = "" then .refuse .emptyText else .ok content
  | .error issues => .error issues

def readOptionalText : Value → Checked (Option String)
  | .null => .ok none
  | value => value.readText.map some

def readList {α : Type} (read : Value → Checked α) : Value → Checked (List α)
  | .list items => Checked.collectFrom read 0 items
  | _ => .refuse .notList

def truthWords : List (String × Bool) :=
  [("0", false), ("off", false), ("f", false), ("false", false), ("n", false), ("no", false),
   ("1", true), ("on", true), ("t", true), ("true", true), ("y", true), ("yes", true)]

/-- The truth value that a whole number stands for. Numbers of more than 64 bits are not even
taken for one. -/
def truthOfInt (number : Int) : Checked Bool :=
  if number = 0 then .ok false
  else if number = 1 then .ok true
  else if Issue.fitsWord number then .refuse .unreadTruth
  else .refuse .notTruth

def readTruth : Value → Checked Bool
  | .bool flag => .ok flag
  | .int number => truthOfInt number
  | .float number =>
    match number.toInt? with
    | none => .refuse .notTruth
    | some whole => if whole = -Issue.wordLimit then .refuse .notTruth else truthOfInt whole
  | .text content =>
    match truthWords.lookup (String.ofList (content.toList.map Char.toLower)) with
    | some flag => .ok flag
    | none => .refuse .unreadTruth
  | _ => .refuse .notTruth

/-- A whole number in plain form: digits, with a minus sign perhaps, and no needless zero in
front. Neither the number nor one that other text follows may be too long. -/
def plainWhole (text : List Char) : Checked Int :=
  let (negative, unsigned) := match text with
    | '-' :: rest => (true, rest)
    | _ => (false, text)
  let digits := unsigned.takeWhile Char.isDigit
  let length := digits.length + if negative then 1 else 0
  if digits.isEmpty || (digits.head? == some '0' && digits ≠ ['0']) then .refuse .unreadWhole
  else if Text.maxIntegerDigits < length then .refuse .oversized
  else if digits.length < unsigned.length then .refuse .unreadWhole
  else
    match Text.digitsValue? 10 digits with
    | none => .refuse .unreadWhole
    | some size => .ok (if negative then -size else size)

/-- What follows leading zeros and the underscores among them. The last of them stays in front of
a point, and where nothing else follows. -/
def dropZeros (last : Char) : List Char → Option (List Char)
  | [] => some [last]
  | c :: rest =>
    if c = '0' || c = '_' then dropZeros c rest
    else if c = '.' then some (last :: c :: rest)
    else if c = '-' || c.isDigit then some (c :: rest)
    else none

/-- A number without its leading zeros. It starts with a digit or a minus sign. -/
def withoutLeadingZeros? : List Char → Option (List Char)
  | [] => none
  | c :: rest =>
    if c = '0' then dropZeros c rest
    else if c = '-' || c.isDigit then some (c :: rest)
    else none

def withoutZeroFraction (text : List Char) : List Char :=
  match text.dropWhile (· ≠ '.') with
  | [] => text
  | _ :: fraction =>
    if !fraction.isEmpty && fraction.all (· = '0') then text.takeWhile (· ≠ '.') else text

/-- A number without its underscores, if all of them are single and inside. -/
def withoutUnderscores (text : List Char) : List Char :=
  let doubled := (text.zip (text.drop 1)).any fun pair => pair.1 = '_' && pair.2 = '_'
  if text.head? == some '_' || text.getLast? == some '_' || doubled then text
  else text.filter (· ≠ '_')

/-- The plain form of a number that is written with blanks around it, a plus sign, leading zeros,
underscores, or a fraction of zeros. -/
def plainForm? (text : List Char) : Option (List Char) :=
  let unsigned := match Text.trimBy Text.isSpace text with
    | '+' :: '-' :: _ => none
    | '+' :: rest => some rest
    | other => some other
  (unsigned.bind withoutLeadingZeros?).map fun number =>
    withoutUnderscores (withoutZeroFraction number)

/-- The whole number that a text spells. A text that is too long as it stands is told apart. -/
def wholeOfText (text : List Char) : Checked Int :=
  match plainWhole text, (plainForm? text).map plainWhole with
  | .ok number, _ => .ok number
  | .error [⟨.oversized, _⟩], _ => .refuse .oversized
  | .error _, some (.ok number) => .ok number
  | .error _, _ => .refuse .unreadWhole

def readWhole : Value → Checked Int
  | .bool flag => .ok (if flag then 1 else 0)
  | .int number => .ok number
  | .float number =>
    match number with
    | .finite .. =>
      match number.toInt? with
      | none => .refuse .fractional
      | some whole =>
        if Issue.fitsWord whole ∧ whole ≠ -Issue.wordLimit then .ok whole else .refuse .oversized
    | _ => .refuse .notFinite
  | .text content => wholeOfText content.toList
  | _ => .refuse .notWhole

def readBounded (least greatest : Nat) (value : Value) : Checked Nat :=
  match value.readWhole with
  | .error issues => .error issues
  | .ok number =>
    if number < least then .refuse (.below least)
    else if (greatest : Int) < number then .refuse (.above greatest)
    else .ok number.toNat

end PrismaNest.Value
