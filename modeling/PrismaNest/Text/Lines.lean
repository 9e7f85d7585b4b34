/-! Lines of a text.

A line feed ends a line. Files may end their lines by a carriage return, or by
both; reading a file turns each of these into one line feed. The last line counts
whether or not a line feed ends it.
-/

set_option autoImplicit false

namespace PrismaNest.Text

/-- Every carriage return, with a line feed after it or alone, as one line feed. -/
def normalizeLineEnds : List Char → List Char
  | [] => []
  | '\r' :: '\n' :: rest => '\n' :: normalizeLineEnds rest
  | c :: rest => (if c = '\r' then '\n' else c) :: normalizeLineEnds rest

theorem not_mem_normalizeLineEnds (text : List Char) : '\r' ∉ normalizeLineEnds text := by
  fun_induction normalizeLineEnds text with
  | case1 => simp
  | case2 rest ih => simp [ih]
  | case3 c rest _ ih =>
    by_cases carriage : c = '\r' <;> simp_all [eq_comm]

theorem normalizeLineEnds_eq_self {text : List Char} (plain : '\r' ∉ text) :
    normalizeLineEnds text = text := by
  fun_induction normalizeLineEnds text with
  | case1 => rfl
  | case2 rest ih => simp at plain
  | case3 c rest _ ih =>
    have different : c ≠ '\r' := fun same => plain (by simp [same])
    simp [different, ih (fun member => plain (List.mem_cons_of_mem _ member))]

def lines (text : List Char) : List (List Char) :=
  text.splitOnP (· = '\n')

/-- A text without the line feed at its very end, if there is one. -/
def withoutLastBreak (text : List Char) : List Char :=
  if text.getLast? == some '\n' then text.dropLast else text

/-- The number of lines, a last one without a line feed included. -/
def lineCount (text : String) : Nat :=
  let chars := text.toList
  match chars.getLast? with
  | none => 0
  | some last => chars.count '\n' + if last = '\n' then 0 else 1

end PrismaNest.Text
