/-! Identifiers of a schema.

An identifier starts with an ASCII letter or an underscore and goes on with ASCII
letters, digits and underscores. One line feed at the very end is tolerated.
-/

set_option autoImplicit false

namespace PrismaNest.Naming

def startsIdentifier (c : Char) : Bool :=
  c.isAlpha || c = '_'

def continuesIdentifier (c : Char) : Bool :=
  c.isAlphanum || c = '_'

def isPlainIdentifier : List Char → Bool
  | [] => false
  | c :: rest => startsIdentifier c && rest.all continuesIdentifier

/-- An identifier, or an identifier and a line feed. -/
def isIdentifier (token : List Char) : Bool :=
  isPlainIdentifier token || (token.getLast? == some '\n' && isPlainIdentifier token.dropLast)

end PrismaNest.Naming
