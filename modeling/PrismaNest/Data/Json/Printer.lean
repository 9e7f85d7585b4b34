import PrismaNest.Data.Json
import PrismaNest.Number.Shortest
import PrismaNest.Text.Quoted

/-! Writing JSON documents.

Every item and every entry stands on a line of its own, indented by a fixed width
per level; an empty array or object stays on its line. In a string only quotes,
backslashes and control characters are escaped.
-/

set_option autoImplicit false

namespace PrismaNest.Json

def escapeChar (c : Char) : List Char :=
  if c = '"' || c = '\\' then ['\\', c]
  else if c = '\n' then ['\\', 'n']
  else if c = '\r' then ['\\', 'r']
  else if c = '\t' then ['\\', 't']
  else if c = '\x08' then ['\\', 'b']
  else if c = '\x0C' then ['\\', 'f']
  else if c.toNat < 0x20 then '\\' :: 'u' :: Text.hexPadded 4 c.toNat
  else [c]

def renderString (text : String) : List Char :=
  '"' :: text.toList.flatMap escapeChar ++ ['"']

def renderFloat : Binary64 → String
  | .nan => "NaN"
  | .infinite negative => if negative then "-Infinity" else "Infinity"
  | number => number.toText

def lineBreak (width level : Nat) : List Char :=
  '\n' :: List.replicate (width * level) ' '

/-- Parts on lines of their own, with commas between them, inside a pair of brackets. -/
def renderParts (width level : Nat) (opening closing : Char) (parts : List (List Char)) :
    List Char :=
  if parts.isEmpty then [opening, closing]
  else opening :: List.intercalate [','] (parts.map (lineBreak width (level + 1) ++ ·))
    ++ lineBreak width level ++ [closing]

mutual

def renderAt (width level : Nat) : Json → List Char
  | .null => "null".toList
  | .bool flag => (if flag then "true" else "false").toList
  | .int number => (toString number).toList
  | .float number => (renderFloat number).toList
  | .string text => renderString text
  | .array items => renderParts width level '[' ']' (renderItems width (level + 1) items)
  | .object entries => renderParts width level '{' '}' (renderEntries width (level + 1) entries)

def renderItems (width level : Nat) : List Json → List (List Char)
  | [] => []
  | item :: rest => renderAt width level item :: renderItems width level rest

def renderEntries (width level : Nat) : List (String × Json) → List (List Char)
  | [] => []
  | (name, value) :: rest =>
    (renderString name ++ ':' :: ' ' :: renderAt width level value)
      :: renderEntries width level rest

end

def render (width : Nat) (document : Json) : String :=
  String.ofList (renderAt width 0 document)

end PrismaNest.Json
