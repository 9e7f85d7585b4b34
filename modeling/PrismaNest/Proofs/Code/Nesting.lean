import PrismaNest.Code.Line
import PrismaNest.Proofs.Text.Brackets

/-! The brackets of written code.

Indentation and line feeds hold no brackets, so a file is nested if the brackets of its lines, one
line after another, are. Brackets may stay open at the end of a line.
-/

set_option autoImplicit false

namespace PrismaNest.CodeLine

open Text

/-- The brackets of some lines, one line after another. -/
def brackets (code : List CodeLine) : List Char :=
  code.flatMap fun line => Text.brackets line.text

@[simp] theorem brackets_nil : brackets [] = [] :=
  rfl

@[simp] theorem brackets_cons (line : CodeLine) (code : List CodeLine) :
    brackets (line :: code) = Text.brackets line.text ++ brackets code :=
  List.flatMap_cons

@[simp] theorem brackets_append (code more : List CodeLine) :
    brackets (code ++ more) = brackets code ++ brackets more :=
  List.flatMap_append

@[simp] theorem brackets_blank : Text.brackets blank.text = [] :=
  rfl

theorem nested_brackets_of_forall {code : List CodeLine}
    (all : ∀ line ∈ code, Nested (Text.brackets line.text)) : Nested (brackets code) := by
  induction code with
  | nil => exact .nil
  | cons line code ih =>
    rw [brackets_cons]
    exact (all line List.mem_cons_self).append
      (ih fun other member => all other (List.mem_cons_of_mem line member))

theorem nested_brackets_flatMap {α : Type} {elements : List α} {written : α → List CodeLine}
    (all : ∀ element ∈ elements, Nested (brackets (written element))) :
    Nested (brackets (elements.flatMap written)) := by
  induction elements with
  | nil => exact .nil
  | cons element elements ih =>
    rw [List.flatMap_cons, brackets_append]
    exact (all element List.mem_cons_self).append
      (ih fun other member => all other (List.mem_cons_of_mem element member))

theorem brackets_map_inside (levels : Nat) (code : List CodeLine) :
    brackets (code.map (inside levels)) = brackets code := by
  rw [brackets, List.flatMap_map]
  rfl

theorem brackets_render (width : Nat) (line : CodeLine) :
    Text.brackets (line.render width) = Text.brackets line.text := by
  have spaces : Text.brackets (String.ofList (List.replicate (line.level * width) ' ')) = [] := by
    rw [Text.brackets, String.toList_ofList, List.filter_eq_nil_iff]
    intro c member
    rw [List.eq_of_mem_replicate member]
    decide
  rw [render, Text.brackets_append, spaces, List.nil_append]

theorem brackets_renderAll (width : Nat) (code : List CodeLine) :
    Text.brackets (renderAll width code) = brackets code := by
  have feed : Text.brackets "\n" = [] := rfl
  rw [renderAll, Text.brackets_append, feed, List.append_nil, brackets_intercalate feed,
    List.flatMap_map]
  exact congrArg (List.flatMap · code) (funext (brackets_render width))

-- A file ends as its last line ends, with a line feed.
theorem suffix_renderAll {front : List CodeLine} {last : CodeLine} {ending : String}
    (ends : ending.toList <:+ last.text.toList) (width : Nat) :
    (ending ++ "\n").toList <:+ (renderAll width (front ++ [last])).toList := by
  have rendered : ending.toList <:+ (last.render width).toList := by
    rw [render, String.toList_append]
    exact ends.trans (List.suffix_append _ _)
  have joined : (last.render width).toList <:+
      (String.intercalate "\n" ((front ++ [last]).map (render width))).toList := by
    cases front with
    | nil => simp
    | cons first front =>
      rw [List.map_append, List.map_singleton, String.intercalate_append_of_ne_nil (by simp) (by simp),
        String.intercalate_singleton, String.toList_append]
      exact List.suffix_append _ _
  obtain ⟨before, split⟩ := rendered.trans joined
  exact ⟨before, by rw [renderAll, String.toList_append, String.toList_append, ← split, List.append_assoc]⟩

end PrismaNest.CodeLine
