import Mathlib.Algebra.Ring.Nat
import Mathlib.Data.List.Forall2
import PrismaNest.Proofs.Code.ImportLines

/-! The width of indentation.

A file is as long as its lines without indentation, and longer by the width for each level of each
line. So two widths give the same file only where no line is indented. What they change are spaces in
front of lines, as many as the levels of each line say: the lines and their texts stay the same.
-/

set_option autoImplicit false

namespace PrismaNest.CodeLine

/-- The levels of all lines together. -/
def levels (lines : List CodeLine) : Nat :=
  (lines.map level).sum

theorem length_render (width : Nat) (line : CodeLine) :
    (line.render width).length = line.level * width + line.text.length := by
  rw [render, String.length_append, String.length_ofList, List.length_replicate]

theorem length_renderAll (width : Nat) (lines : List CodeLine) :
    (renderAll width lines).length = levels lines * width + (renderAll 0 lines).length := by
  match lines with
  | [] => simp [renderAll, levels]
  | [line] =>
    simp only [renderAll, levels, List.map_cons, List.map_nil, String.intercalate_singleton,
      String.length_append, length_render, List.sum_singleton]
    omega
  | first :: second :: lines =>
    have further := length_renderAll width (second :: lines)
    have split : levels (first :: second :: lines) = first.level + levels (second :: lines) := by
      simp only [levels, List.map_cons, List.sum_cons]
    simp only [renderAll_cons_cons, String.length_append, length_render, further, split, Nat.add_mul]
    omega

theorem levels_eq_zero_iff {lines : List CodeLine} :
    levels lines = 0 ↔ ∀ line ∈ lines, line.level = 0 := by
  simp only [levels, List.sum_eq_zero_iff_forall_eq_nat, List.mem_map, forall_exists_index, and_imp,
    forall_apply_eq_imp_iff₂]

theorem renderAll_eq_iff {width other : Nat} {lines : List CodeLine} :
    renderAll width lines = renderAll other lines ↔
      width = other ∨ ∀ line ∈ lines, line.level = 0 := by
  constructor
  · intro same
    have lengths := congrArg String.length same
    rw [length_renderAll width, length_renderAll other, Nat.add_right_cancel_iff,
      mul_eq_mul_left_iff, levels_eq_zero_iff] at lengths
    exact lengths
  · rintro (rfl | flat)
    · rfl
    · have rendered : lines.map (render width) = lines.map (render other) := by
        refine List.map_congr_left fun line member => ?_
        rw [render, render, flat line member, Nat.zero_mul, Nat.zero_mul]
      rw [renderAll, renderAll, rendered]

/-! ### Line by line -/

/-- A line whose text starts where its level ends. -/
def Flush (line : CodeLine) : Prop :=
  line.text.toList.head? ≠ some ' '

instance (line : CodeLine) : Decidable line.Flush :=
  inferInstanceAs (Decidable (_ ≠ _))

/-- The same text on a line, in front of it as many levels of one width or of another. -/
def IndentedAlike (width other : Nat) (line counterpart : List Char) : Prop :=
  ∃ levels text, line = List.replicate (levels * width) ' ' ++ text ∧
    counterpart = List.replicate (levels * other) ' ' ++ text ∧ text.head? ≠ some ' '

theorem indentedAlike_render {line : CodeLine} (flush : line.Flush) (width other : Nat) :
    IndentedAlike width other (line.render width).toList (line.render other).toList := by
  refine ⟨line.level, line.text.toList, ?_, ?_, flush⟩
  · rw [render, String.toList_append, String.toList_ofList]
  · rw [render, String.toList_append, String.toList_ofList]

theorem forall₂_indentedAlike {code : List CodeLine} (nonempty : code ≠ [])
    (unbroken : ∀ line ∈ code, Text.Lacks '\n' line.text)
    (flush : ∀ line ∈ code, line.Flush) (width other : Nat) :
    List.Forall₂ (IndentedAlike width other) (Text.lines (renderAll width code).toList)
      (Text.lines (renderAll other code).toList) := by
  have last : List.Forall₂ (IndentedAlike width other) [[]] [[]] :=
    .cons ⟨0, [], by simp⟩ .nil
  rw [lines_renderAll nonempty unbroken, lines_renderAll nonempty unbroken]
  refine List.rel_append ?_ last
  rw [List.forall₂_map_left_iff, List.forall₂_map_right_iff, List.forall₂_same]
  exact fun line member => indentedAlike_render (flush line member) width other

end PrismaNest.CodeLine
