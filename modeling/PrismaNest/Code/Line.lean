/-! Lines of generated code.

A line has a nesting level and a text; only when a file is written is the level
turned into spaces. Every file ends with a line feed.
-/

set_option autoImplicit false

namespace PrismaNest

structure CodeLine where
  level : Nat
  text : String
  deriving DecidableEq, Repr

namespace CodeLine

def blank : CodeLine :=
  ⟨0, ""⟩

def inside (levels : Nat) (line : CodeLine) : CodeLine :=
  ⟨levels + line.level, line.text⟩

def render (width : Nat) (line : CodeLine) : String :=
  String.ofList (List.replicate (line.level * width) ' ') ++ line.text

/-- The text of a file, with a given number of spaces per level. -/
def renderAll (width : Nat) (lines : List CodeLine) : String :=
  String.intercalate "\n" (lines.map (render width)) ++ "\n"

theorem renderAll_cons_cons (width : Nat) (first second : CodeLine) (lines : List CodeLine) :
    renderAll width (first :: second :: lines) =
      first.render width ++ "\n" ++ renderAll width (second :: lines) := by
  simp only [renderAll, List.map_cons, String.intercalate_cons_cons, String.append_assoc]

end CodeLine

end PrismaNest
