import PrismaNest.Naming.Words
import PrismaNest.Text.LowerCase

/-! Plurals of names, by the endings of English nouns.

A few nouns have a form of their own. Otherwise a name that ends in a single s is
taken for a plural already, a hissing ending takes -es, a y after a consonant
becomes -ies, and anything else takes -s. Endings are compared in lower case.
-/

set_option autoImplicit false

namespace PrismaNest.Naming

def irregularPlurals : List (String × String) :=
  [("person", "people"), ("child", "children"), ("man", "men"), ("woman", "women"),
   ("mouse", "mice"), ("datum", "data"), ("index", "indices"), ("matrix", "matrices"),
   ("vertex", "vertices"), ("axis", "axes"), ("crisis", "crises"), ("analysis", "analyses"),
   ("status", "statuses"), ("address", "addresses")]

/-- A name with only its first letter in lower case, as data access handles are named. -/
def lowerFirst (name : String) : String :=
  match name.toList with
  | [] => ""
  | c :: rest => String.ofList (Text.lowerChar [] c [] ++ rest)

def startsUpper (name : String) : Bool :=
  match name.toList with
  | [] => false
  | c :: _ => Text.lowerChar [] c [] != [c]

def isVowel (c : Char) : Bool :=
  "aeiou".toList.contains c

/-- What a name that follows the rules becomes, given its lower case read backwards. -/
def regularPlural (name : String) : List Char → String
  | 's' :: 's' :: _ => name ++ "es"
  | 's' :: _ => name
  | 'h' :: 's' :: _ => name ++ "es"
  | 'h' :: 'c' :: _ => name ++ "es"
  | 'x' :: _ => name ++ "es"
  | 'z' :: _ => name ++ "es"
  | 'y' :: c :: _ =>
    if isVowel c then name ++ "s" else String.ofList name.toList.dropLast ++ "ies"
  | _ => name ++ "s"

/-- The plural of a name; an irregular one keeps the case of the first letter. -/
def plural (name : String) : String :=
  if name = "" then ""
  else
    let small := Text.lower name
    match irregularPlurals.lookup small with
    | some form => if startsUpper name then capitalize form else form
    | none => regularPlural name small.toList.reverse

end PrismaNest.Naming
