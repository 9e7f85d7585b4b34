import PrismaNest.Code.Import
import PrismaNest.Proofs.Entries
import PrismaNest.Proofs.Text.Absence
import PrismaNest.Proofs.Text.Pieces
import PrismaNest.Proofs.Text.Runs

/-! Import lines in written files.

An import line has two quotes if neither its names nor its module holds one, so it can be
taken apart in one way. Lines that are indented or start in another way are no imports. The
lines of a file are its code lines, so a file imports what its code lines import.
-/

set_option autoImplicit false

namespace PrismaNest

open Text

/-- The text of the import of some names from a module. -/
def importLine (names : List String) (source : String) : String :=
  "import \x7b " ++ String.intercalate ", " names ++ " \x7d from '" ++ source ++ "';"

/-- A file has a line that imports some names from a module. -/
def ImportsFrom (text : String) (names : List String) (source : String) : Prop :=
  (importLine names source).toList ∈ lines text.toList

instance (text : String) (names : List String) (source : String) :
    Decidable (ImportsFrom text names source) :=
  inferInstanceAs (Decidable (_ ∈ lines text.toList))

/-- A text has a piece that begins where a line begins and stops where one stops. -/
def HasLines (text piece : String) : Prop :=
  ∃ front back, text.toList = front ++ piece.toList ++ '\n' :: back ∧ EndsOutside (· ≠ '\n') front

theorem toList_importLine (names : List String) (source : String) :
    (importLine names source).toList = "import \x7b ".toList ++
      (((String.intercalate ", " names).toList ++ " \x7d from ".toList) ++ '\'' ::
        (source.toList ++ ['\'', ';'])) := by
  simp [importLine]

-- Names and module of an import line without further quotes can be read off it.
theorem importLine_inj {names others : List String} {source other : String}
    (namesQuotable : Lacks '\'' (String.intercalate ", " others)) (sourceQuotable : Lacks '\'' other)
    (same : importLine names source = importLine others other) :
    String.intercalate ", " names = String.intercalate ", " others ∧ source = other := by
  have chars := congrArg String.toList same
  rw [toList_importLine, toList_importLine] at chars
  have rest := List.append_cancel_left chars
  -- Both sides have two quotes, so the left side has none but the two it must have.
  have quotes := congrArg (List.count '\'') rest
  have none := List.count_eq_zero.mpr namesQuotable
  have noneMore := List.count_eq_zero.mpr sourceQuotable
  have fixed : " \x7d from ".toList.count '\'' = 0 := by decide
  simp only [List.count_append, List.count_cons_self, none, noneMore, fixed] at quotes
  have clear : '\'' ∉ (String.intercalate ", " names).toList :=
    List.count_eq_zero.mp (by omega)
  have isQuote : ∀ (front : List Char), '\'' ∉ front →
      ∀ c ∈ front ++ " \x7d from ".toList, decide (c = '\'') = false := by
    intro front absent c member
    rcases List.mem_append.mp member with member | member
    · simpa using fun same : c = '\'' => absent (same ▸ member)
    · have constant : '\'' ∉ " \x7d from ".toList := by decide
      simpa using fun same : c = '\'' => constant (same ▸ member)
  obtain ⟨fronts, -, tails⟩ := split_first_inj (isQuote _ clear) (isQuote _ namesQuotable)
    (by decide) (by decide) rest
  exact ⟨String.toList_inj.mp (List.append_cancel_right fronts),
    String.toList_inj.mp (List.append_cancel_right tails)⟩

-- A single name without a comma cannot be taken for several.
theorem eq_of_mem_of_intercalate {names : List String} {name : String} (whole : Lacks ',' name)
    (same : String.intercalate ", " names = name) : ∀ other ∈ names, other = name := by
  intro other member
  match names with
  | [only] =>
    rw [String.intercalate_singleton] at same
    rw [List.mem_singleton.mp member, same]
  | first :: second :: rest =>
    refine absurd ?_ whole
    rw [String.intercalate_cons_cons] at same
    simp [← same]

theorem infix_intercalate {separator piece : String} {pieces : List String} (member : piece ∈ pieces) :
    piece.toList <:+: (String.intercalate separator pieces).toList := by
  induction pieces with
  | nil => cases member
  | cons first pieces ih =>
    cases pieces with
    | nil =>
      rw [List.mem_singleton.mp member]
      simp only [String.intercalate_singleton, List.infix_rfl]
    | cons second pieces =>
      rw [String.intercalate_cons_cons, String.toList_append, String.toList_append]
      rcases List.mem_cons.mp member with rfl | member
      · rw [List.append_assoc]
        exact (List.prefix_append _ _).isInfix
      · exact (ih member).trans (List.suffix_append _ _).isInfix

namespace CodeLine

/-- A line that is further in, or starts otherwise than an import. -/
def Inert (line : CodeLine) : Prop :=
  line.level = 0 → line.text.toList.head? ≠ some 'i'

-- An inert line does not start as an import does, wherever it is indented.
theorem Inert.head?_render_ne {line : CodeLine} (inert : line.Inert) {width : Nat} (wide : 0 < width) :
    (line.render width).toList.head? ≠ some 'i' := by
  intro first
  rw [render, String.toList_append, String.toList_ofList] at first
  cases level : line.level with
  | zero =>
    rw [level, Nat.zero_mul] at first
    exact inert level first
  | succ below =>
    obtain ⟨spaces, indent⟩ : ∃ spaces, line.level * width = spaces + 1 :=
      ⟨line.level * width - 1, by
        have := Nat.mul_pos (by omega : 0 < line.level) wide
        omega⟩
    rw [indent, List.replicate_succ] at first
    cases first

theorem Inert.render_ne {line : CodeLine} (inert : line.Inert) {width : Nat} (wide : 0 < width)
    (names : List String) (source : String) : line.render width ≠ importLine names source := by
  intro same
  apply inert.head?_render_ne wide
  rw [same, toList_importLine]
  rfl

theorem render_zero (width : Nat) (text : String) : render width ⟨0, text⟩ = text := by
  simp [render]

theorem lacks_render {line : CodeLine} (unbroken : Lacks '\n' line.text) (width : Nat) :
    Lacks '\n' (line.render width) := by
  rw [render, lacks_append, lacks_ofList]
  exact ⟨fun member => absurd (List.eq_of_mem_replicate member) (by decide), unbroken⟩

-- The lines of a written file are its code lines and an empty line at the end.
theorem lines_renderAll {code : List CodeLine} (nonempty : code ≠ [])
    (unbroken : ∀ line ∈ code, Lacks '\n' line.text) (width : Nat) :
    lines (renderAll width code).toList =
      (code.map fun line => (line.render width).toList) ++ [[]] := by
  have ended : renderAll width code = String.intercalate "\n" (code.map (render width) ++ [""]) := by
    rw [String.intercalate_append_of_ne_nil (by simpa using nonempty) (List.cons_ne_nil _ _),
      String.intercalate_singleton, String.append_empty]
    rfl
  have apart : ∀ piece ∈ code.map (render width) ++ [""], Lacks '\n' piece := by
    intro piece written
    rcases List.mem_append.mp written with inside | last
    · obtain ⟨line, lineMember, rfl⟩ := List.mem_map.mp inside
      exact lacks_render (unbroken line lineMember) width
    · rw [List.mem_singleton.mp last]
      exact List.not_mem_nil
  rw [lines_eq_splitOn, ended, splitOn_intercalate "\n" '\n' rfl apart (by simp),
    List.map_append, List.map_map]
  rfl

-- The first code line gives the first line of a file.
theorem lines_renderAll_cons {first : CodeLine} (unbroken : Lacks '\n' first.text) (width : Nat)
    (second : CodeLine) (others : List CodeLine) :
    lines (renderAll width (first :: second :: others)).toList =
      (first.render width).toList :: lines (renderAll width (second :: others)).toList := by
  rw [renderAll_cons_cons, String.toList_append, String.toList_append, List.append_assoc]
  exact lines_append_break (lacks_render unbroken width) _

-- Whatever the texts of code lines hold, each stands in the file on lines of its own.
theorem hasLines_renderAll {code : List CodeLine} {line : CodeLine} (member : line ∈ code) (width : Nat) :
    HasLines (renderAll width code) (line.render width) := by
  induction code with
  | nil => cases member
  | cons first code ih =>
    cases code with
    | nil =>
      rw [List.mem_singleton.mp member]
      exact ⟨[], [], by simp [renderAll], fun _ last => nomatch last⟩
    | cons second others =>
      rw [renderAll_cons_cons]
      rcases List.mem_cons.mp member with rfl | later
      · exact ⟨[], (renderAll width (second :: others)).toList, by simp, fun _ last => nomatch last⟩
      · obtain ⟨front, back, split, ends⟩ := ih later
        refine ⟨(first.render width).toList ++ '\n' :: front, back, by simp [split], ?_⟩
        exact (ends.cons (by decide)).append _ (List.cons_ne_nil _ _)

theorem infix_renderAll {code : List CodeLine} {line : CodeLine} (member : line ∈ code) (width : Nat) :
    line.text.toList <:+: (renderAll width code).toList := by
  have rendered : line.text.toList <:+: (line.render width).toList := by
    rw [render, String.toList_append]
    exact (List.suffix_append _ _).isInfix
  have joined : (line.render width).toList <:+:
      (String.intercalate "\n" (code.map (render width))).toList :=
    infix_intercalate (List.mem_map_of_mem member)
  apply (rendered.trans joined).trans
  rw [renderAll, String.toList_append]
  exact (List.prefix_append _ _).isInfix

/-- A line without line feeds that is no import. -/
structure IsBody (line : CodeLine) : Prop where
  unbroken : Lacks '\n' line.text
  inert : line.Inert

/-- A line that is an import from a list, or none at all. -/
inductive Fits (imports : Imports) (line : CodeLine) : Prop where
  | body : line.IsBody → Fits imports line
  | entry {entry : String × List String} : entry ∈ imports →
      line = ⟨0, Imports.line entry.2 entry.1⟩ → Fits imports line

end CodeLine

namespace Imports

/-- Entries whose names and modules can stand in an import line. -/
def AllQuotable (imports : Imports) : Prop :=
  ∀ entry ∈ imports, Quotable entry.1 ∧ ∀ name ∈ entry.2, Quotable name

/-- Entries that give one line each: no module and no name holds a line feed. -/
def Unbroken (imports : Imports) : Prop :=
  ∀ entry ∈ imports, Lacks '\n' entry.1 ∧ ∀ name ∈ entry.2, Lacks '\n' name

theorem AllQuotable.unbroken {imports : Imports} (quotable : imports.AllQuotable) : imports.Unbroken :=
  fun entry member => ⟨(quotable entry member).1.unbroken,
    fun name inside => ((quotable entry member).2 name inside).unbroken⟩

theorem Unbroken.lacks_line {imports : Imports} (unbroken : imports.Unbroken)
    {entry : String × List String} (member : entry ∈ imports) : Lacks '\n' (line entry.2 entry.1) := by
  obtain ⟨source, names⟩ := unbroken entry member
  have listed : Lacks '\n' (String.intercalate ", " entry.2.eraseDups) :=
    lacks_intercalate (by decide) fun name inside => names name (List.mem_eraseDups.mp inside)
  simp only [line, lacks_append, listed, source, and_true]
  decide

-- Collecting entries by module adds none.
theorem mem_of_mem_ofList {entries : Imports} {entry : String × List String}
    (member : entry ∈ ofList entries) : entry ∈ entries :=
  (mem_putEntries member).resolve_right List.not_mem_nil

theorem nodup_ofList (entries : Imports) : ((ofList entries).map Prod.fst).Nodup :=
  nodup_putEntries (by simp : (([] : Imports).map Prod.fst).Nodup) entries

theorem line_eq_importLine (names : List String) (source : String) :
    line names source = importLine names.eraseDups source := rfl

theorem quotable_names {imports : Imports} (quotable : imports.AllQuotable)
    {entry : String × List String} (member : entry ∈ imports) :
    Quotable (String.intercalate ", " entry.2.eraseDups) :=
  quotable_intercalate (by decide) fun name nameMember =>
    (quotable entry member).2 name (List.mem_eraseDups.mp nameMember)

end Imports

section
variable {code : List CodeLine} {imports : Imports} (fits : ∀ line ∈ code, line.Fits imports)
include fits

theorem lacks_break_of_fits (unbroken : imports.Unbroken) : ∀ line ∈ code, Lacks '\n' line.text := by
  intro line member
  cases fits line member with
  | body body => exact body.unbroken
  | entry entryMember same =>
    subst same
    exact unbroken.lacks_line entryMember

variable (quotable : imports.AllQuotable)
include quotable

theorem importsFrom_of_mem {names : List String} {source : String}
    (member : ⟨0, Imports.line names source⟩ ∈ code) (width : Nat) :
    ImportsFrom (CodeLine.renderAll width code) names.eraseDups source := by
  rw [ImportsFrom, CodeLine.lines_renderAll (List.ne_nil_of_mem member)
    (lacks_break_of_fits fits quotable.unbroken)]
  apply List.mem_append_left
  refine List.mem_map.mpr ⟨_, member, ?_⟩
  rw [CodeLine.render_zero, Imports.line_eq_importLine]

-- A file imports nothing but what its code lines import.
theorem exists_entry_of_importsFrom {width : Nat} (written : code ≠ []) (wide : 0 < width)
    {names : List String} {source : String}
    (imported : ImportsFrom (CodeLine.renderAll width code) names source) :
    ∃ entry ∈ imports, source = entry.1 ∧
      String.intercalate ", " names = String.intercalate ", " entry.2.eraseDups := by
  rw [ImportsFrom, CodeLine.lines_renderAll written (lacks_break_of_fits fits quotable.unbroken)] at imported
  rcases List.mem_append.mp imported with inside | last
  · obtain ⟨line, member, same⟩ := List.mem_map.mp inside
    have whole := String.toList_inj.mp same
    cases fits line member with
    | body body => exact absurd whole (body.inert.render_ne wide names source)
    | @entry entry entryMember line =>
      subst line
      rw [CodeLine.render_zero, Imports.line_eq_importLine] at whole
      obtain ⟨namesSame, sourceSame⟩ := importLine_inj
        (Imports.quotable_names quotable entryMember).noQuote (quotable entry entryMember).1.noQuote
        whole.symm
      exact ⟨entry, entryMember, sourceSame, namesSame⟩
  · rw [List.mem_singleton, toList_importLine] at last
    cases last

end

end PrismaNest
