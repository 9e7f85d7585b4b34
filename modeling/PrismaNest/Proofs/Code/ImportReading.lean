import PrismaNest.Proofs.Code.ImportLines
import PrismaNest.Proofs.Schema.Names
import PrismaNest.Proofs.Text.Symbols

/-! Import lines as they are read.

An import line of words gives its module and its names back. A line with further quotes in it does not
read as an import; whatever line does read was written with the module that it gives. So the imports of
a file can be read off its text.
-/

set_option autoImplicit false

namespace PrismaNest.Imports

open Text

/-- What the names of an import line consist of: anything but what stands between them. -/
def isNameChar (c : Char) : Bool :=
  c ≠ ' ' && c ≠ ','

/-- The module and the names that an import line gives. -/
def readLine? (line : List Char) : Option (String × List String) :=
  match line.splitOn '\'' with
  | [front, source, [';']] =>
    (front.dropPrefix? "import \x7b ".toList).bind fun opened =>
      (opened.dropSuffix? " \x7d from ".toList).map fun names =>
        (String.ofList source, (runsOf isNameChar names).map String.ofList)
  | _ => none

/-- What the lines of a text import, in their order. -/
def ofText (text : String) : Imports :=
  (Text.lines text.toList).filterMap readLine?

theorem runsOf_intercalate {names : List String} (words : ∀ name ∈ names, IsWord name) :
    (runsOf isNameChar (String.intercalate ", " names).toList).map String.ofList = names := by
  have whole {name : String} (word : IsWord name) : runsOf isNameChar name.toList = [name.toList] := by
    refine runsOf_run (fun c member => ?_) (by simpa using word.nonempty)
    have blank : c ≠ ' ' := fun same => word.lacks (by decide) (same ▸ member)
    have comma : c ≠ ',' := fun same => word.lacks (by decide) (same ▸ member)
    simp [isNameChar, blank, comma]
  induction names with
  | nil => simp
  | cons first names ih =>
    have others := ih fun name member => words name (List.mem_cons_of_mem first member)
    cases names with
    | nil => simp [whole (words first List.mem_cons_self)]
    | cons second names =>
      have parted : (String.intercalate ", " (first :: second :: names)).toList =
          first.toList ++ ',' :: ([] ++ ' ' :: (String.intercalate ", " (second :: names)).toList) := by
        simp [String.intercalate_cons_cons]
      rw [parted, runsOf_append_cons (by decide), runsOf_append_cons (by decide), runsOf_nil,
        List.nil_append, whole (words first List.mem_cons_self), List.map_append, others]
      simp

-- The quotes of an import line are those around its module.
theorem splitOn_importLine {names : List String} {source : String}
    (noQuote : Lacks '\'' (String.intercalate ", " names)) (sourceNoQuote : Lacks '\'' source) :
    (importLine names source).toList.splitOn '\'' =
      ["import \x7b ".toList ++ (String.intercalate ", " names).toList ++ " \x7d from ".toList,
        source.toList, [';']] := by
  have pieces : (importLine names source).toList = ['\''].intercalate
      ["import \x7b ".toList ++ (String.intercalate ", " names).toList ++ " \x7d from ".toList,
        source.toList, [';']] := by
    simp [importLine, List.intercalate]
  rw [pieces, List.splitOn_intercalate _ _ (by simp)]
  have constant : '\'' ∉ "import \x7b ".toList ∧ '\'' ∉ " \x7d from ".toList ∧ '\'' ∉ [';'] := by
    decide
  simp only [List.forall_mem_cons, List.mem_append, not_or]
  exact ⟨⟨⟨constant.1, noQuote⟩, constant.2.1⟩, sourceNoQuote, constant.2.2, List.forall_mem_nil _⟩

theorem readLine?_importLine {names : List String} {source : String}
    (words : ∀ name ∈ names, IsWord name) (noQuote : Lacks '\'' source) :
    readLine? (importLine names source).toList = some (source, names) := by
  have namesNoQuote : Lacks '\'' (String.intercalate ", " names) :=
    lacks_intercalate (by decide) fun name member => (words name member).lacks (by decide)
  have opened : ("import \x7b ".toList ++ (String.intercalate ", " names).toList ++
      " \x7d from ".toList).dropPrefix? "import \x7b ".toList =
        some ((String.intercalate ", " names).toList ++ " \x7d from ".toList) := by
    rw [List.append_assoc]
    exact List.dropPrefix?_append_of_beq _ (beq_self_eq_true _)
  have closed : ((String.intercalate ", " names).toList ++ " \x7d from ".toList).dropSuffix?
      " \x7d from ".toList = some (String.intercalate ", " names).toList :=
    List.dropSuffix?_eq_some_iff.mpr ⟨_, rfl, beq_self_eq_true _⟩
  rw [readLine?, splitOn_importLine namesNoQuote noQuote]
  simp only [opened, Option.bind_some, closed, Option.map_some, String.ofList_toList,
    runsOf_intercalate words]

-- A line that reads as an import has no quotes but those around its module.
theorem of_readLine?_eq_some {line : List Char} {source : String} {names : List String}
    (read : readLine? line = some (source, names)) :
    ∃ written, line = (importLine [written] source).toList ∧ Lacks '\'' written ∧ Lacks '\'' source := by
  unfold readLine? at read
  split at read
  · rename_i front inside divided
    obtain ⟨opened, begins, read⟩ := Option.bind_eq_some_iff.mp read
    obtain ⟨between, ends, same⟩ := Option.map_eq_some_iff.mp read
    obtain ⟨start, frontSplit, started⟩ := List.dropPrefix?_eq_some_iff.mp begins
    obtain ⟨stop, openedSplit, stopped⟩ := List.dropSuffix?_eq_some_iff.mp ends
    obtain rfl := eq_of_beq started
    obtain rfl := eq_of_beq stopped
    cases same
    have whole : ['\''].intercalate (line.splitOn '\'') = line := List.intercalate_splitOn '\''
    have quoteless : ∀ piece ∈ line.splitOn '\'', '\'' ∉ piece := by
      intro piece member quote
      rw [List.splitOn_eq_splitOnP] at member
      simpa using not_of_mem_splitOnP member '\'' quote
    rw [divided] at whole quoteless
    refine ⟨String.ofList between, ?_, ?_, ?_⟩
    · rw [← whole, frontSplit, openedSplit]
      simp [importLine, List.intercalate]
    · have frontQuoteless := quoteless front (by simp)
      rw [frontSplit, openedSplit] at frontQuoteless
      rw [lacks_ofList]
      exact fun quote => frontQuoteless (by simp [quote])
    · rw [lacks_ofList]
      exact quoteless inside (by simp)
  · cases read

-- Whatever stands in an import line, it reads with its own module or not at all.
theorem source_of_readLine?_importLine {names read : List String} {source other : String}
    (given : readLine? (importLine names source).toList = some (other, read)) : other = source := by
  obtain ⟨written, same, noQuote, otherNoQuote⟩ := of_readLine?_eq_some given
  have quoteless : Lacks '\'' (String.intercalate ", " [written]) := by
    rwa [String.intercalate_singleton]
  exact (importLine_inj quoteless otherNoQuote (String.toList_inj.mp same)).2.symm

theorem isPrefix_of_readLine? {line : List Char} {entry : String × List String}
    (read : readLine? line = some entry) : "import \x7b ".toList <+: line := by
  obtain ⟨written, rfl, -, -⟩ := of_readLine?_eq_some read
  rw [toList_importLine]
  exact List.prefix_append _ _

/-- Entries that can be read back: modules without quotes and line feeds, and words for names. -/
def Readable (imports : Imports) : Prop :=
  ∀ entry ∈ imports, Quotable entry.1 ∧ ∀ name ∈ entry.2, IsWord name

theorem Readable.unbroken {imports : Imports} (readable : imports.Readable) : imports.Unbroken :=
  fun entry member => ⟨(readable entry member).1.unbroken,
    fun name inside => ((readable entry member).2 name inside).lacks (by decide)⟩

/-- The entries that give a line, each name once. -/
def given (imports : Imports) : Imports :=
  (imports.filter fun entry => !entry.2.isEmpty).map fun entry => (entry.1, entry.2.eraseDups)

theorem codeBlock_eq (imports : Imports) : imports.codeBlock =
    if imports.given.isEmpty then []
    else imports.given.map (fun entry => ⟨0, importLine entry.2 entry.1⟩) ++ [.blank] := by
  have lines : imports.lines = imports.given.map fun entry => importLine entry.2 entry.1 := by
    rw [given, List.map_map]
    rfl
  rw [codeBlock, code, lines, List.isEmpty_map, List.map_map]
  rfl

theorem eq_of_mem_codeBlock {imports : Imports} {line : CodeLine} (member : line ∈ imports.codeBlock) :
    (∃ entry ∈ imports.given, line = ⟨0, importLine entry.2 entry.1⟩) ∨ line = .blank := by
  rw [codeBlock_eq] at member
  split at member
  · cases member
  · rcases List.mem_append.mp member with head | last
    · obtain ⟨entry, entryMember, rfl⟩ := List.mem_map.mp head
      exact .inl ⟨entry, entryMember, rfl⟩
    · exact .inr (List.mem_singleton.mp last)

theorem render_blank (width : Nat) : CodeLine.blank.render width = "" := by
  simp [CodeLine.render, CodeLine.blank]

section
variable {imports : Imports} (readable : imports.Readable)
include readable

theorem Readable.given : imports.given.Readable := by
  intro entry member
  obtain ⟨written, writtenMember, rfl⟩ := List.mem_map.mp member
  obtain ⟨source, words⟩ := readable written (List.mem_filter.mp writtenMember).1
  exact ⟨source, fun name inside => words name (List.mem_eraseDups.mp inside)⟩

theorem readLine?_of_mem_given {entry : String × List String} (member : entry ∈ imports.given)
    (width : Nat) :
    readLine? ((CodeLine.mk 0 (importLine entry.2 entry.1)).render width).toList = some entry := by
  obtain ⟨source, words⟩ := readable.given entry member
  rw [CodeLine.render_zero, readLine?_importLine words source.noQuote]

end

section
variable {line : CodeLine} (inert : line.Inert) {width : Nat} (wide : 0 < width)
include inert wide

theorem not_isPrefix_of_inert {start : List Char} : ¬ 'i' :: start <+: (line.render width).toList := by
  rintro ⟨rest, split⟩
  apply inert.head?_render_ne wide
  rw [← split]
  rfl

theorem readLine?_of_inert : readLine? (line.render width).toList = none := by
  cases read : readLine? (line.render width).toList with
  | none => rfl
  | some entry => exact absurd (isPrefix_of_readLine? read) (not_isPrefix_of_inert inert wide)

end

theorem lacks_break_of_mem_codeBlock {imports : Imports} (unbroken : imports.Unbroken) {line : CodeLine}
    (member : line ∈ imports.codeBlock) : Lacks '\n' line.text := by
  rcases eq_of_mem_codeBlock member with ⟨entry, entryMember, rfl⟩ | rfl
  · obtain ⟨written, writtenMember, rfl⟩ := List.mem_map.mp entryMember
    exact unbroken.lacks_line (List.mem_filter.mp writtenMember).1
  · exact List.not_mem_nil

section
variable {imports : Imports} {body : List CodeLine} (isBody : ∀ line ∈ body, line.IsBody)
  (written : body ≠ [])
include isBody written

theorem lines_renderAll_codeBlock (unbroken : imports.Unbroken) (width : Nat) :
    Text.lines (CodeLine.renderAll width (imports.codeBlock ++ body)).toList =
      (imports.codeBlock ++ body).map (fun line => (line.render width).toList) ++ [[]] := by
  apply CodeLine.lines_renderAll (by simp [written])
  intro line member
  rcases List.mem_append.mp member with head | inBody
  · exact lacks_break_of_mem_codeBlock unbroken head
  · exact (isBody line inBody).unbroken

variable (readable : imports.Readable) {width : Nat} (wide : 0 < width)
include readable wide

/-- A file imports what its import lines are written for. -/
theorem ofText_renderAll :
    ofText (CodeLine.renderAll width (imports.codeBlock ++ body)) = imports.given := by
  have inBody : body.filterMap (fun line => readLine? (line.render width).toList) = [] :=
    List.filterMap_eq_nil_iff.mpr fun line member => readLine?_of_inert (isBody line member).inert wide
  have inHead : imports.codeBlock.filterMap (fun line => readLine? (line.render width).toList) =
      imports.given := by
    have read : imports.given.filterMap
        (fun entry => readLine? ((CodeLine.mk 0 (importLine entry.2 entry.1)).render width).toList) =
          imports.given.filterMap some :=
      List.filterMap_congr fun entry member => readLine?_of_mem_given readable member width
    rw [codeBlock_eq]
    split
    · rename_i none
      rw [List.isEmpty_iff.mp none]
      rfl
    · rw [List.filterMap_append, List.filterMap_map]
      have blank : [CodeLine.blank].filterMap (fun line => readLine? (line.render width).toList) = [] := by
        rw [List.filterMap_cons, render_blank]
        rfl
      rw [blank, List.append_nil]
      exact read.trans List.filterMap_some
  rw [ofText, lines_renderAll_codeBlock isBody written readable.unbroken, List.filterMap_append,
    List.filterMap_map, List.filterMap_append]
  have last : [([] : List Char)].filterMap readLine? = [] := by decide
  rw [last, List.append_nil]
  simp only [Function.comp_def]
  rw [inHead, inBody, List.append_nil]

-- Every line that starts as an import does reads as one.
theorem exists_of_isPrefix {line : List Char}
    (member : line ∈ Text.lines (CodeLine.renderAll width (imports.codeBlock ++ body)).toList)
    (starts : "import ".toList <+: line) : ∃ entry, readLine? line = some entry := by
  rw [lines_renderAll_codeBlock isBody written readable.unbroken] at member
  rcases List.mem_append.mp member with inside | last
  · obtain ⟨codeLine, codeMember, rfl⟩ := List.mem_map.mp inside
    rcases List.mem_append.mp codeMember with head | inBody
    · rcases eq_of_mem_codeBlock head with ⟨entry, entryMember, rfl⟩ | rfl
      · exact ⟨entry, readLine?_of_mem_given readable entryMember width⟩
      · rw [render_blank] at starts
        cases List.prefix_nil.mp starts
    · exact absurd starts (not_isPrefix_of_inert (isBody codeLine inBody).inert wide)
  · rw [List.mem_singleton.mp last] at starts
    cases List.prefix_nil.mp starts

end

end PrismaNest.Imports
