import PrismaNest.Data.Json
import PrismaNest.Data.Moment
import PrismaNest.Number.Shortest

/-! Values of settings files.

A value is what a settings file may hold in any of its formats. A mapping keeps its
entries in order; its keys are values without parts. Numbers and truth values are
the same key if they are equal as numbers, so `1`, `1.0` and `true` are one key. A
collection inside itself is given by how far out it is, so that every value is finite.
-/

set_option autoImplicit false

namespace PrismaNest

inductive Value where
  | null
  | bool (flag : Bool)
  | int (number : Int)
  | float (number : Binary64)
  | text (content : String)
  | date (day : Date)
  | moment (instant : Moment)
  | list (items : List Value)
  | mapping (entries : List (Value × Value))
  /-- The collection that so many others lie in between; zero is the one right around. -/
  | enclosing (between : Nat)
  deriving Repr

namespace Value

/-- The name of a value's kind, as messages give it. What encloses a value is never at the top,
where messages look. -/
def kindName : Value → String
  | .null => "NoneType"
  | .bool _ => "bool"
  | .int _ => "int"
  | .float _ => "float"
  | .text _ => "str"
  | .date _ => "date"
  | .moment _ => "datetime"
  | .list _ => "list"
  | .mapping _ => "dict"
  | .enclosing _ => ""

/-- Whether a value may be a key: all may but those with parts. -/
def isKey : Value → Bool
  | .list _ | .mapping _ | .enclosing _ => false
  | _ => true

/-- The whole number that a key stands for, if any. -/
def keyNumber? : Value → Option Int
  | .bool flag => some (if flag then 1 else 0)
  | .int number => some number
  | .float number => number.toInt?
  | _ => none

def sameKey (first second : Value) : Bool :=
  match first, second with
  | .null, .null => true
  | .text first, .text second => first = second
  | .date first, .date second => first = second
  | .moment first, .moment second => first.sameInstant second
  | .float first, .float second => first = second || first.sameValue second
  | first, second =>
    match keyNumber? first, keyNumber? second with
    | some first, some second => first = second
    | _, _ => false

def putKey {β : Type} (key : Value) (value : β) : List (Value × β) → List (Value × β)
  | [] => [(key, value)]
  | (existing, old) :: rest =>
    if existing.sameKey key then (existing, value) :: rest
    else (existing, old) :: putKey key value rest

def lookupText (key : String) (entries : List (Value × Value)) : Option Value :=
  (entries.find? fun entry => entry.1.sameKey (.text key)).map Prod.snd

def keyText : Value → String
  | .null => "None"
  | .bool flag => if flag then "True" else "False"
  | .int number => toString number
  | .float number => number.toText
  | .text content => content
  | .date day => day.toText
  | .moment instant => instant.toText " "
  | .list _ | .mapping _ | .enclosing _ => ""

mutual

def ofJson : Json → Value
  | .null => .null
  | .bool flag => .bool flag
  | .int number => .int number
  | .float number => .float number
  | .string content => .text content
  | .array items => .list (ofItems items)
  | .object entries => .mapping (ofEntries entries)

def ofItems : List Json → List Value
  | [] => []
  | item :: rest => ofJson item :: ofItems rest

def ofEntries : List (String × Json) → List (Value × Value)
  | [] => []
  | (name, value) :: rest => (.text name, ofJson value) :: ofEntries rest

end

end Value

end PrismaNest
