import PrismaNest.Code.Line
import PrismaNest.Entries

/-! Import lines.

A file collects the names it needs by module. Each module with at least one name
gives one line, in the order in which the modules were first mentioned; within a
line every name stands once.
-/

set_option autoImplicit false

namespace PrismaNest

/-- The names to import, by module. -/
abbrev Imports := List (String × List String)

namespace Imports

def line (names : List String) (source : String) : String :=
  "import \x7b " ++ String.intercalate ", " names.eraseDups ++ " \x7d from '" ++ source ++ "';"

/-- One line per module from which something is imported. -/
def lines (imports : Imports) : List String :=
  (imports.filter fun entry => !entry.2.isEmpty).map fun entry => line entry.2 entry.1

/-- The imports of modules given one after another; a module given again takes the last names. -/
def ofList (entries : List (String × List String)) : Imports :=
  putEntries [] entries

def code (imports : Imports) : List CodeLine :=
  imports.lines.map (CodeLine.mk 0)

/-- Import lines with a blank line after them, or nothing if there are none. -/
def codeBlock (imports : Imports) : List CodeLine :=
  if imports.lines.isEmpty then [] else imports.code ++ [.blank]

end Imports

end PrismaNest
