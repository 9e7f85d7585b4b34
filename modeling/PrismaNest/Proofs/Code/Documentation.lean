import PrismaNest.Artifact.Request
import PrismaNest.Proofs.Code.ImportReading
import PrismaNest.Proofs.Code.Nesting

/-! Files without their documentation.

Taking the documentation out of a file leaves out the imports that are for documentation only, and
every documentation decorator as far as its parentheses reach. Where no import is left, the blank line
behind the imports goes with them. Code lines are followed one after another, so what becomes of some
lines can be told from what becomes of their parts.
-/

set_option autoImplicit false

namespace PrismaNest

open Text

/-- A module that is imported for documentation: the package, or the entity that a controller shows. -/
def isDocumentationSource (source : String) : Bool :=
  source = swaggerModule || "./entities/".toList.isPrefixOf source.toList

def importsDocumentation (line : List Char) : Bool :=
  (Imports.readLine? line).any fun entry => isDocumentationSource entry.1

/-- Whether a documentation decorator starts on a line, after the indentation. -/
def startsDocumentation (line : List Char) : Bool :=
  "@Api".toList.isPrefixOf (line.dropWhile (· = ' '))

/-- The number of parentheses that are open behind a line. -/
def openAfter (depth : Nat) (line : List Char) : Nat :=
  depth + line.count '(' - line.count ')'

/-- The lines outside of documentation decorators, if so many parentheses of one are open in front. -/
def withoutDecorators (depth : Nat) : List (List Char) → List (List Char)
  | [] => []
  | line :: lines =>
    if depth == 0 && !startsDocumentation line then line :: withoutDecorators 0 lines
    else withoutDecorators (openAfter depth line) lines

/-- The lines without a blank one at the very front, which stands there if no import is left. -/
def withoutGap : List (List Char) → List (List Char)
  | [] :: lines => lines
  | lines => lines

/-- The lines of a file without those that are for documentation. -/
def undocumented (lines : List (List Char)) : List (List Char) :=
  withoutGap (withoutDecorators 0 (lines.filter (!importsDocumentation ·)))

theorem isDocumentationSource_iff {source : String} : isDocumentationSource source = true ↔
    source = swaggerModule ∨ "./entities/".toList <+: source.toList := by
  rw [isDocumentationSource, Bool.or_eq_true, decide_eq_true_eq, List.isPrefixOf_iff_prefix]

-- Modules that start otherwise than those for documentation.
theorem isDocumentationSource_append {front : String}
    (package : ¬ front.toList <+: swaggerModule.toList)
    (entities : ¬ front.toList <+: "./entities/".toList ∧ ¬ "./entities/".toList <+: front.toList)
    (rest : String) : isDocumentationSource (front ++ rest) = false := by
  rw [← Bool.not_eq_true, isDocumentationSource_iff, not_or]
  have started : front.toList <+: (front ++ rest).toList := by
    rw [String.toList_append]
    exact List.prefix_append _ _
  constructor
  · intro same
    rw [same] at started
    exact package started
  · intro inside
    rcases List.prefix_or_prefix_of_prefix started inside with shorter | longer
    · exact entities.1 shorter
    · exact entities.2 longer

/-! ### Decorators -/

section
variable {depth : Nat} {line : List Char} {lines : List (List Char)}

theorem withoutDecorators_kept (plain : startsDocumentation line = false) :
    withoutDecorators 0 (line :: lines) = line :: withoutDecorators 0 lines := by
  simp [withoutDecorators, plain]

theorem withoutDecorators_dropped (inside : depth ≠ 0 ∨ startsDocumentation line = true) :
    withoutDecorators depth (line :: lines) = withoutDecorators (openAfter depth line) lines := by
  rcases inside with opened | starts
  · simp [withoutDecorators, opened]
  · simp [withoutDecorators, starts]

end

namespace CodeLine

theorem startsDocumentation_render (width : Nat) (line : CodeLine) :
    startsDocumentation (line.render width).toList = startsDocumentation line.text.toList := by
  have spaces : ∀ c ∈ List.replicate (line.level * width) ' ', decide (c = ' ') = true :=
    fun c member => decide_eq_true (List.eq_of_mem_replicate member)
  have unindented : (line.render width).toList.dropWhile (· = ' ') = line.text.toList.dropWhile (· = ' ') := by
    rw [render, String.toList_append, String.toList_ofList, List.dropWhile_append_of_pos spaces]
  rw [startsDocumentation, unindented]
  rfl

theorem openAfter_render (depth width : Nat) (line : CodeLine) :
    openAfter depth (line.render width).toList = openAfter depth (Text.brackets line.text) := by
  rw [← brackets_render width, openAfter, openAfter, Text.brackets, List.count_filter (by decide),
    List.count_filter (by decide)]

theorem not_startsDocumentation {text : String} {c : Char} (first : text.toList.head? = some c)
    (proper : c ≠ ' ' ∧ c ≠ '@') : startsDocumentation text.toList = false := by
  obtain ⟨rest, written⟩ := List.head?_eq_some_iff.mp first
  rw [startsDocumentation, written, List.dropWhile_cons_of_neg (by simpa using proper.1),
    ← Bool.not_eq_true, List.isPrefixOf_iff_prefix]
  rintro ⟨_, same⟩
  exact proper.2 (List.cons.inj same).1.symm

/-- What some lines become without their documentation, whatever follows them. -/
def Undocuments (width : Nat) (code plain : List CodeLine) : Prop :=
  ∀ rest, withoutDecorators 0 (code.map (fun line => (line.render width).toList) ++ rest) =
    plain.map (fun line => (line.render width).toList) ++ withoutDecorators 0 rest

/-- Whether some lines close so many parentheses, and not before the last of them. -/
def closesWith : Nat → List CodeLine → Bool
  | depth, [] => depth == 0
  | depth, line :: lines => depth != 0 && closesWith (openAfter depth (Text.brackets line.text)) lines

section
variable {width : Nat}

theorem undocuments_nil : Undocuments width [] [] :=
  fun _ => rfl

theorem Undocuments.append {code plain more morePlain : List CodeLine} (first : Undocuments width code plain)
    (second : Undocuments width more morePlain) :
    Undocuments width (code ++ more) (plain ++ morePlain) := by
  intro rest
  rw [List.map_append, List.append_assoc, first, second, List.map_append, List.append_assoc]

theorem undocuments_flatMap {α : Type} {elements : List α} {written plain : α → List CodeLine}
    (each : ∀ element ∈ elements, Undocuments width (written element) (plain element)) :
    Undocuments width (elements.flatMap written) (elements.flatMap plain) := by
  induction elements with
  | nil => exact undocuments_nil
  | cons element elements ih =>
    obtain ⟨first, others⟩ := List.forall_mem_cons.mp each
    exact first.append (ih others)

theorem undocuments_kept {code : List CodeLine}
    (plain : ∀ line ∈ code, startsDocumentation line.text.toList = false) :
    Undocuments width code code := by
  intro rest
  induction code with
  | nil => rfl
  | cons line code ih =>
    obtain ⟨first, others⟩ := List.forall_mem_cons.mp plain
    rw [List.map_cons, List.cons_append, List.cons_append,
      withoutDecorators_kept (by rwa [startsDocumentation_render]), ih others]

-- While parentheses of a decorator are open, its lines are left out.
theorem withoutDecorators_of_closesWith {depth : Nat} {code : List CodeLine}
    (closes : closesWith depth code = true) (rest : List (List Char)) :
    withoutDecorators depth (code.map (fun line => (line.render width).toList) ++ rest) =
      withoutDecorators 0 rest := by
  induction code generalizing depth with
  | nil =>
    rw [closesWith, beq_iff_eq] at closes
    rw [closes]
    rfl
  | cons line code ih =>
    rw [closesWith, Bool.and_eq_true, bne_iff_ne] at closes
    rw [List.map_cons, List.cons_append, withoutDecorators_dropped (.inl closes.1), openAfter_render]
    exact ih closes.2

theorem undocuments_decorator {first : CodeLine} {others : List CodeLine}
    (starts : startsDocumentation first.text.toList = true)
    (closes : closesWith (openAfter 0 (Text.brackets first.text)) others = true) :
    Undocuments width (first :: others) [] := by
  intro rest
  rw [List.map_cons, List.cons_append, withoutDecorators_dropped (.inr (by rwa [startsDocumentation_render])),
    openAfter_render]
  exact withoutDecorators_of_closesWith closes rest

end

end CodeLine

/-! ### Imports -/

namespace Imports

/-- The entries that are not for documentation. -/
def plain (imports : Imports) : Imports :=
  imports.filter fun entry => !isDocumentationSource entry.1

/-- Entries for documentation that can be read back as such. -/
def ReadablyDocumented (imports : Imports) : Prop :=
  ∀ entry ∈ imports, isDocumentationSource entry.1 = true →
    Quotable entry.1 ∧ ∀ name ∈ entry.2, IsWord name

theorem plain_ofList (entries : Imports) : (ofList entries).plain = ofList entries.plain :=
  filter_putEntries (fun source => !isDocumentationSource source) [] entries

theorem given_plain (imports : Imports) : imports.plain.given = imports.given.plain := by
  rw [given, given, plain, plain, List.filter_map, List.filter_filter, List.filter_filter]
  congr 1
  exact List.filter_congr fun entry _ => Bool.and_comm _ _

-- Quotes in an entry may hide its module, but no other entry is taken for one for documentation.
theorem importsDocumentation_importLine {names : List String} {source : String}
    (readable : isDocumentationSource source = true → Quotable source ∧ ∀ name ∈ names, IsWord name) :
    importsDocumentation (importLine names source).toList = isDocumentationSource source := by
  cases documentation : isDocumentationSource source with
  | true =>
    obtain ⟨quotable, words⟩ := readable documentation
    rw [importsDocumentation, readLine?_importLine words quotable.noQuote]
    exact documentation
  | false =>
    rw [importsDocumentation]
    cases read : readLine? (importLine names source).toList with
    | none => rfl
    | some entry =>
      rw [Option.any_some, source_of_readLine?_importLine read]
      exact documentation

theorem importsDocumentation_of_inert {line : CodeLine} (inert : line.Inert) {width : Nat}
    (wide : 0 < width) : importsDocumentation (line.render width).toList = false := by
  rw [importsDocumentation, readLine?_of_inert inert wide]
  rfl

/-- What is left of an import block: the lines of the plain entries, and the blank line behind all. -/
def leftBlock (imports : Imports) : List CodeLine :=
  imports.plain.given.map (fun entry => ⟨0, importLine entry.2 entry.1⟩)
    ++ (if imports.given.isEmpty then [] else [.blank])

theorem filter_codeBlock {imports : Imports} (readable : imports.ReadablyDocumented) (width : Nat) :
    (imports.codeBlock.map fun line => (line.render width).toList).filter (!importsDocumentation ·) =
      imports.leftBlock.map fun line => (line.render width).toList := by
  have entries : (imports.given.map fun entry =>
      ((CodeLine.mk 0 (importLine entry.2 entry.1)).render width).toList).filter (!importsDocumentation ·) =
        imports.plain.given.map fun entry =>
          ((CodeLine.mk 0 (importLine entry.2 entry.1)).render width).toList := by
    rw [given_plain, plain, List.filter_map]
    congr 1
    refine List.filter_congr fun entry member => ?_
    obtain ⟨written, writtenMember, rfl⟩ := List.mem_map.mp member
    rw [Function.comp_apply, CodeLine.render_zero, importsDocumentation_importLine]
    intro documentation
    obtain ⟨quotable, words⟩ := readable written (List.mem_filter.mp writtenMember).1 documentation
    exact ⟨quotable, fun name inside => words name (List.mem_eraseDups.mp inside)⟩
  have blank : [(CodeLine.blank.render width).toList].filter (!importsDocumentation ·) =
      [(CodeLine.blank.render width).toList] := by
    rw [render_blank]
    decide
  rw [codeBlock_eq, leftBlock]
  split
  · rename_i none
    rw [given_plain, List.isEmpty_iff.mp none]
    rfl
  · rw [List.map_append, List.filter_append, List.map_map, List.map_append, List.map_map, List.map_singleton,
      blank]
    exact congrArg (· ++ _) entries

theorem not_startsDocumentation_of_mem_leftBlock {imports : Imports} :
    ∀ line ∈ imports.leftBlock, startsDocumentation line.text.toList = false := by
  intro line member
  rcases List.mem_append.mp member with entryLine | gap
  · obtain ⟨entry, -, rfl⟩ := List.mem_map.mp entryLine
    rw [toList_importLine]
    rfl
  · split at gap
    · cases gap
    · rw [List.mem_singleton.mp gap]
      decide

end Imports

/-! ### Files -/

theorem withoutGap_of_ne_nil {line : List Char} (written : line ≠ []) (lines : List (List Char)) :
    withoutGap (line :: lines) = line :: lines := by
  cases line with
  | nil => exact absurd rfl written
  | cons c line => rfl

theorem CodeLine.render_ne_nil {line : CodeLine} (written : line.text ≠ "") (width : Nat) :
    (line.render width).toList ≠ [] := by
  intro empty
  rw [render, String.toList_append, List.append_eq_nil_iff] at empty
  exact written (String.toList_eq_nil_iff.mp empty.2)

section
variable {imports : Imports} {first : CodeLine} {others : List CodeLine} (written : first.text ≠ "")
include written

-- The blank line behind the imports is in front where no import is left.
theorem withoutGap_leftBlock (width : Nat) (rest : List (List Char)) :
    withoutGap ((imports.leftBlock ++ first :: others).map (fun line => (line.render width).toList) ++ rest) =
      (imports.plain.codeBlock ++ first :: others).map (fun line => (line.render width).toList) ++ rest := by
  have opening := CodeLine.render_ne_nil written width
  rw [Imports.leftBlock, Imports.codeBlock_eq]
  cases left : imports.plain.given with
  | nil =>
    split
    · exact withoutGap_of_ne_nil opening _
    · change withoutGap ((CodeLine.blank.render width).toList :: _) = _
      rw [Imports.render_blank]
      rfl
  | cons entry entries =>
    have given : imports.given.isEmpty = false := by
      rw [← Bool.not_eq_true, List.isEmpty_iff]
      intro none
      rw [Imports.given_plain, none] at left
      cases left
    have line : ((CodeLine.mk 0 (importLine entry.2 entry.1)).render width).toList ≠ [] := by
      rw [CodeLine.render_zero, toList_importLine]
      exact List.cons_ne_nil _ _
    rw [given]
    exact withoutGap_of_ne_nil line _

variable {body : List CodeLine} (readable : imports.ReadablyDocumented) (unbroken : imports.Unbroken)
  (isBody : ∀ line ∈ body, line.IsBody) (bodyWritten : body ≠ [])
  (isPlainBody : ∀ line ∈ first :: others, line.IsBody) {width : Nat} (wide : 0 < width)
  (undocuments : CodeLine.Undocuments width body (first :: others))
include readable unbroken isBody bodyWritten isPlainBody wide undocuments

/-- Without its documentation, a file has the plain imports and what is left of its body. -/
theorem undocumented_renderAll :
    undocumented (lines (CodeLine.renderAll width (imports.codeBlock ++ body)).toList) =
      lines (CodeLine.renderAll width (imports.plain.codeBlock ++ first :: others)).toList := by
  have plainUnbroken : imports.plain.Unbroken :=
    fun entry member => unbroken entry (List.mem_filter.mp member).1
  have inBody : (body.map fun line => (line.render width).toList).filter (!importsDocumentation ·) =
      body.map fun line => (line.render width).toList := by
    rw [List.filter_eq_self]
    intro line member
    obtain ⟨codeLine, codeMember, rfl⟩ := List.mem_map.mp member
    rw [Imports.importsDocumentation_of_inert (isBody codeLine codeMember).inert wide]
    rfl
  have last : [([] : List Char)].filter (!importsDocumentation ·) = [[]] := by decide
  have head : CodeLine.Undocuments width imports.leftBlock imports.leftBlock :=
    CodeLine.undocuments_kept Imports.not_startsDocumentation_of_mem_leftBlock
  rw [Imports.lines_renderAll_codeBlock isBody bodyWritten unbroken,
    Imports.lines_renderAll_codeBlock isPlainBody (List.cons_ne_nil _ _) plainUnbroken, undocumented,
    List.filter_append, List.map_append, List.filter_append, Imports.filter_codeBlock readable, inBody,
    last, ← List.map_append, head.append undocuments]
  exact withoutGap_leftBlock written width [[]]

end

end PrismaNest
