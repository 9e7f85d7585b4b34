/-! The words of a name, and the casing styles built from them.

Words are runs of ASCII letters or of ASCII digits. A word ends where letters and
digits meet, before a capital that follows a small letter, and before the last
capital of a run that small letters follow, so `HTTPServer2` has the words http,
server and 2. Every other character separates words and is dropped.
-/

set_option autoImplicit false

namespace PrismaNest.Naming

/-- Whether a new word starts at a letter or digit, between its neighbours in the name. -/
def startsWord (previous current : Char) (next : Option Char) : Bool :=
  if current.isDigit then !previous.isDigit
  else if previous.isDigit then true
  else if current.isUpper then
    !previous.isUpper || next.any Char.isLower
  else false

def joinFirst (c : Char) : List (List Char) → List (List Char)
  | [] => [[c]]
  | word :: rest => (c :: word) :: rest

def wordsAsWritten : List Char → List (List Char)
  | [] => []
  | c :: rest =>
    if c.isAlphanum then
      match rest with
      | d :: after =>
        if d.isAlphanum && !startsWord c d after.head? then joinFirst c (wordsAsWritten rest)
        else [c] :: wordsAsWritten rest
      | [] => [[c]]
    else wordsAsWritten rest

def words (name : String) : List String :=
  (wordsAsWritten name.toList).map fun word => String.ofList (word.map Char.toLower)

def capitalize (word : String) : String :=
  match word.toList with
  | [] => ""
  | c :: rest => String.ofList (c.toUpper :: rest)

/-- All words capitalised and joined: `OrderItem`. -/
def pascalCase (name : String) : String :=
  String.join ((words name).map capitalize)

/-- All words but the first capitalised, and joined: `orderItem`. -/
def camelCase (name : String) : String :=
  match words name with
  | [] => ""
  | first :: rest => first ++ String.join (rest.map capitalize)

/-- The words joined by hyphens: `order-item`. -/
def kebabCase (name : String) : String :=
  String.intercalate "-" (words name)

end PrismaNest.Naming
