import PrismaNest.Proofs.Code.Indentation
import PrismaNest.Proofs.Schema.Names
import PrismaNest.Proofs.Text.Lists
import PrismaNest.Proofs.Text.Lowering

/-! Methods as they are read from a class.

A class is read line by line, without the indentation. A line with a name and a list of parameters
declares a method, and opens its body unless it closes it at once; the body ends at a line of its own.
What is read is what the lines were written for.
-/

set_option autoImplicit false

namespace PrismaNest

open Text

/-- A parameter: what stands in front of its name, the name, and its type. -/
structure Parameter where
  binding : String
  name : String
  type : String
  deriving DecidableEq, Repr

/-- A method as it is declared. -/
structure Heading where
  name : String
  parameters : List Parameter
  deriving DecidableEq, Repr

/-- A call of a method of a member. -/
structure Call where
  member : String
  method : String
  arguments : List String
  deriving DecidableEq, Repr

/-- A method with the lines of its body. -/
structure Method where
  heading : Heading
  body : List (List Char)
  deriving DecidableEq, Repr

/-- The lines of a text without the spaces in front of them. -/
def statementsOf (text : String) : List (List Char) :=
  (lines text.toList).map (·.dropWhile (· = ' '))

/-! ### Reading -/

/-- The parameter in a text of the form `binding name: type`, or `name: type`. -/
def Parameter.ofText? (text : List Char) : Option Parameter :=
  let label := text.takeWhile (· ≠ ':')
  ((text.dropWhile (· ≠ ':')).dropPrefix? [':', ' ']).map fun type =>
    { binding := String.ofList (label.rdropWhile (· ≠ ' '))
      name := String.ofList (label.rtakeWhile (· ≠ ' '))
      type := String.ofList type }

namespace Heading

/-- The heading in a text of the form `name(parameters)`, with some ending. -/
def ofDeclaration? (ending declaration : List Char) : Option Heading :=
  ((declaration.dropWhile isWordChar).dropPrefix? ['(']).bind fun list =>
    (list.dropSuffix? (')' :: ending)).bind fun parameters =>
      ((entriesOf parameters).mapM Parameter.ofText?).map
        (⟨String.ofList (declaration.takeWhile isWordChar), ·⟩)

def asyncMark : List Char :=
  "async ".toList

def ofLine? (ending line : List Char) : Option Heading :=
  ofDeclaration? ending ((line.dropPrefix? asyncMark).getD line)

end Heading

namespace Call

def returnMark : List Char :=
  "return this.".toList

/-- The call on a line of the form `return this.member.method(arguments);`. -/
def ofLine? (line : List Char) : Option Call :=
  (line.dropPrefix? returnMark).bind fun access =>
    ((access.dropWhile (· ≠ '.')).dropPrefix? ['.']).bind fun call =>
      ((call.dropWhile (· ≠ '(')).dropPrefix? ['(']).bind fun list =>
        (list.dropSuffix? ");".toList).map fun arguments =>
          { member := String.ofList (access.takeWhile (· ≠ '.'))
            method := String.ofList (call.takeWhile (· ≠ '('))
            arguments := (entriesOf arguments).map String.ofList }

def allIn (text : String) : List Call :=
  (statementsOf text).filterMap ofLine?

end Call

namespace Method

/-- The methods on some lines, where one may be open before the first of them. -/
def readAll : Option Method → List (List Char) → List Method
  | _, [] => []
  | none, line :: lines =>
    match Heading.ofLine? " \x7b\x7d".toList line with
    | some heading => ⟨heading, []⟩ :: readAll none lines
    | none => readAll ((Heading.ofLine? " \x7b".toList line).map (⟨·, []⟩)) lines
  | some method, line :: lines =>
    if line = ['}'] then method :: readAll none lines
    else readAll (some { method with body := method.body ++ [line] }) lines

def allIn (text : String) : List Method :=
  readAll none (statementsOf text)

def calls (method : Method) : List Call :=
  method.body.filterMap Call.ofLine?

end Method

/-- The name on a line that begins the declaration of a class. -/
def classNameOf? (line : List Char) : Option String :=
  (line.dropPrefix? "export class ".toList).map fun named => String.ofList (named.takeWhile isWordChar)

/-- The name of the first class that a text declares. -/
def classNameIn? (text : String) : Option String :=
  (statementsOf text).findSome? classNameOf?

/-! ### Names and parameters -/

/-- The signs that part a list, a parameter or a call. -/
def partSigns : List Char :=
  [' ', ',', '(', ')', ':', '.']

theorem not_isLabelChar_of_mem_partSigns {sign : Char} (listed : sign ∈ partSigns) :
    isLabelChar sign = false := by
  have all : partSigns.all (fun sign => !isLabelChar sign) = true := by decide
  simpa using List.all_eq_true.mp all sign listed

/-- A text that is read as a whole where it stands in a list, a parameter or a call. -/
structure IsAtom (text : String) : Prop where
  nonempty : text ≠ ""
  plain : ∀ sign ∈ partSigns, Lacks sign text

theorem IsWord.isAtom {text : String} (isWord : IsWord text) : IsAtom text := by
  refine ⟨isWord.nonempty, fun sign listed member => ?_⟩
  have label := isLabelChar_of_isWordChar (isWord.word sign member)
  rw [not_isLabelChar_of_mem_partSigns listed] at label
  cases label

namespace IsAtom

variable {text : String} (isAtom : IsAtom text)
include isAtom

theorem ne (sign : Char) (listed : sign ∈ partSigns) :
    ∀ c ∈ text.toList, decide (c ≠ sign) = true := by
  intro c member
  rw [decide_eq_true_eq]
  rintro rfl
  exact isAtom.plain c listed member

theorem depthAfter? (depth : Nat) : depthAfter? depth text.toList = some depth :=
  depthAfter?_of_lacks (isAtom.plain _ (by decide)) (isAtom.plain _ (by decide))
    (isAtom.plain _ (by decide)) depth

theorem isEntry : IsEntry text.toList := by
  refine ⟨by simpa using isAtom.nonempty, fun c first => ?_, isAtom.depthAfter? 0⟩
  rw [decide_eq_false_iff_not]
  rintro rfl
  exact isAtom.plain ' ' (by decide) (List.mem_of_head? first)

end IsAtom

namespace Parameter

def text (parameter : Parameter) : String :=
  parameter.binding ++ parameter.name ++ ": " ++ parameter.type

/-- A text that can stand in front of the name of a parameter: nothing, or something with a space
behind it. -/
structure IsBinding (binding : String) : Prop where
  flush : StartsOutside (fun c => decide (c = ' ')) binding.toList
  spaced : EndsOutside (fun c => decide (c ≠ ' ')) binding.toList
  unlabelled : Lacks ':' binding
  closed : Text.depthAfter? 0 binding.toList = some 0

theorem isBinding_iff {binding : String} : IsBinding binding ↔
    StartsOutside (fun c => decide (c = ' ')) binding.toList ∧
      EndsOutside (fun c => decide (c ≠ ' ')) binding.toList ∧ Lacks ':' binding ∧
      Text.depthAfter? 0 binding.toList = some 0 :=
  ⟨fun both => ⟨both.flush, both.spaced, both.unlabelled, both.closed⟩,
    fun parts => ⟨parts.1, parts.2.1, parts.2.2.1, parts.2.2.2⟩⟩

instance (binding : String) : Decidable (IsBinding binding) :=
  decidable_of_iff _ isBinding_iff.symm

theorem isBinding_empty : IsBinding "" := by
  decide

/-- A parameter that can be told from its text. -/
structure Legible (parameter : Parameter) : Prop where
  binding : IsBinding parameter.binding
  name : IsAtom parameter.name
  type : IsAtom parameter.type

variable {parameter : Parameter} (legible : parameter.Legible)
include legible

theorem isEntry_text : IsEntry parameter.text.toList := by
  obtain ⟨⟨flush, -, -, closed⟩, name, type⟩ := legible
  have parted : parameter.text.toList = parameter.binding.toList ++
      (parameter.name.toList ++ (": ".toList ++ parameter.type.toList)) := by
    simp [text]
  rw [parted]
  refine ⟨by simp, ?_, ?_⟩
  · -- Without a binding, the name comes first.
    cases front : parameter.binding.toList with
    | nil =>
      obtain ⟨c, rest, spelled⟩ := List.exists_cons_of_ne_nil name.isEntry.nonempty
      have first := name.isEntry.flush c (by rw [spelled]; rfl)
      rw [spelled]
      rintro _ ⟨⟩
      exact first
    | cons c rest =>
      have first := flush c (by rw [front]; rfl)
      rintro _ ⟨⟩
      exact first
  · rw [depthAfter?_append, closed, Option.bind_some, depthAfter?_append, name.depthAfter?,
      Option.bind_some, depthAfter?_append]
    exact type.depthAfter? 0

theorem ofText?_text : ofText? parameter.text.toList = some parameter := by
  obtain ⟨⟨-, spaced, unlabelled, -⟩, name, -⟩ := legible
  have parted : parameter.text.toList =
      (parameter.binding ++ parameter.name).toList ++ ([':', ' '] ++ parameter.type.toList) := by
    simp [text]
  have label : ∀ c ∈ (parameter.binding ++ parameter.name).toList, decide (c ≠ ':') = true := by
    intro c member
    rw [decide_eq_true_eq]
    rintro rfl
    exact lacks_append.mpr ⟨unlabelled, name.plain ':' (by decide)⟩ member
  have stop : StartsOutside (fun c => decide (c ≠ ':')) ([':', ' '] ++ parameter.type.toList) := by
    rintro _ ⟨⟩
    rfl
  have typed : ([':', ' '] ++ parameter.type.toList).dropPrefix? [':', ' '] =
      some parameter.type.toList :=
    List.dropPrefix?_append_of_beq _ (beq_self_eq_true _)
  have word := name.ne ' ' (by decide)
  rw [ofText?, parted, takeWhile_run label stop, dropWhile_run label stop, typed, String.toList_append,
    rdropWhile_run word spaced, rtakeWhile_run word spaced]
  simp only [Option.map_some, String.ofList_toList]

end Parameter

/-! ### Headings -/

namespace Heading

def text (heading : Heading) : String :=
  heading.name ++ "(" ++ String.intercalate ", " (heading.parameters.map Parameter.text) ++ ")"

/-- A heading that can be told from its text. -/
structure Legible (heading : Heading) : Prop where
  name : IsWord heading.name
  parameters : ∀ parameter ∈ heading.parameters, parameter.Legible

section
variable {heading : Heading} (legible : heading.Legible)
include legible

theorem mapM_ofText? : ((heading.parameters.map Parameter.text).map String.toList).mapM Parameter.ofText? =
    some heading.parameters := by
  obtain ⟨-, parameters⟩ := legible
  generalize heading.parameters = listed at parameters
  induction listed with
  | nil => rfl
  | cons parameter listed ih =>
    obtain ⟨here, others⟩ := List.forall_mem_cons.mp parameters
    rw [List.map_cons, List.map_cons, List.mapM_cons, Parameter.ofText?_text here, ih others]
    rfl

theorem ofDeclaration?_text (ending : String) :
    ofDeclaration? ending.toList (heading.text ++ ending).toList = some heading := by
  have parted : (heading.text ++ ending).toList = heading.name.toList ++ (['('] ++
      ((String.intercalate ", " (heading.parameters.map Parameter.text)).toList ++
        ')' :: ending.toList)) := by
    simp [text]
  have stop (rest : List Char) : StartsOutside isWordChar (['('] ++ rest) := by
    rintro _ ⟨⟩
    decide
  have opened (rest : List Char) : (['('] ++ rest).dropPrefix? ['('] = some rest :=
    List.dropPrefix?_append_of_beq _ (beq_self_eq_true _)
  have closed (list : List Char) : (list ++ ')' :: ending.toList).dropSuffix? (')' :: ending.toList) =
      some list :=
    List.dropSuffix?_eq_some_iff.mpr ⟨_, rfl, beq_self_eq_true _⟩
  have entries : ∀ entry ∈ heading.parameters.map Parameter.text, IsEntry entry.toList := by
    intro entry member
    obtain ⟨parameter, inside, rfl⟩ := List.mem_map.mp member
    exact Parameter.isEntry_text (legible.parameters parameter inside)
  rw [ofDeclaration?, parted, dropWhile_run legible.name.word (stop _), opened, Option.bind_some, closed,
    Option.bind_some, entriesOf_intercalate entries, mapM_ofText? legible,
    takeWhile_run legible.name.word (stop _), Option.map_some, String.ofList_toList]

-- A name goes on up to its list of parameters, so no space stands behind its first word.
theorem dropPrefix?_eq_none_of_spaced (word : List Char) {more : List Char}
    (isRun : ∀ c ∈ word, isWordChar c = true) (ending : String) :
    (heading.text ++ ending).toList.dropPrefix? (word ++ ' ' :: more) = none := by
  rw [Option.eq_none_iff_forall_ne_some]
  intro rest marked
  obtain ⟨mark, split, same⟩ := List.dropPrefix?_eq_some_iff.mp marked
  obtain rfl := eq_of_beq same
  have parted : (heading.text ++ ending).toList = heading.name.toList ++ '(' ::
      ((String.intercalate ", " (heading.parameters.map Parameter.text) ++ ")" ++ ending).toList) := by
    simp [text]
  have spaced : (heading.text ++ ending).toList = word ++ ' ' :: (more ++ rest) := by
    simp [split]
  obtain ⟨-, sign⟩ := run_append_inj legible.name.word isRun (by rintro _ ⟨⟩; decide)
    (by rintro _ ⟨⟩; decide) (parted.symm.trans spaced)
  exact absurd (List.cons.inj sign).1 (by decide)

theorem ofLine?_text (ending : String) :
    ofLine? ending.toList (heading.text ++ ending).toList = some heading := by
  have plain : (heading.text ++ ending).toList.dropPrefix? asyncMark = none :=
    dropPrefix?_eq_none_of_spaced legible "async".toList (List.all_eq_true.mp (by decide)) ending
  rw [ofLine?, plain, Option.getD_none, ofDeclaration?_text legible]

theorem noCall (ending : String) : Call.ofLine? (heading.text ++ ending).toList = none := by
  have plain : (heading.text ++ ending).toList.dropPrefix? Call.returnMark = none :=
    dropPrefix?_eq_none_of_spaced legible "return".toList (List.all_eq_true.mp (by decide)) ending
  rw [Call.ofLine?, plain, Option.bind_none]

theorem ofLine?_async (ending : String) :
    ofLine? ending.toList ("async " ++ heading.text ++ ending).toList = some heading := by
  have marked : ("async " ++ heading.text ++ ending).toList.dropPrefix? asyncMark =
      some (heading.text ++ ending).toList := by
    rw [String.append_assoc, String.toList_append]
    exact List.dropPrefix?_append_of_beq _ (beq_self_eq_true _)
  rw [ofLine?, marked, Option.getD_some, ofDeclaration?_text legible]

end

-- A comma within parentheses belongs to a binding.
example : ofLine? " \x7b".toList "update(@Param('id', ParseIntPipe) id: number, @Body() a: B) \x7b".toList =
    some ⟨"update", [⟨"@Param('id', ParseIntPipe) ", "id", "number"⟩, ⟨"@Body() ", "a", "B"⟩]⟩ := by
  decide +kernel

theorem declaration_suffix (line : List Char) : (line.dropPrefix? asyncMark).getD line <:+ line := by
  cases marked : line.dropPrefix? asyncMark with
  | none => exact List.suffix_refl line
  | some declaration =>
    obtain ⟨mark, split, -⟩ := List.dropPrefix?_eq_some_iff.mp marked
    exact split ▸ List.suffix_append mark declaration

-- A line is a heading with one ending only, since it has one last character.
theorem ofLine?_eq_none_of_getLast? {ending line : List Char} {c : Char} (last : line.getLast? = some c)
    (other : (')' :: ending).getLast? ≠ some c) : ofLine? ending line = none := by
  rw [Option.eq_none_iff_forall_ne_some]
  intro heading found
  obtain ⟨list, opened, further⟩ := Option.bind_eq_some_iff.mp found
  obtain ⟨parameters, closed, -⟩ := Option.bind_eq_some_iff.mp further
  obtain ⟨mark, declared, -⟩ := List.dropPrefix?_eq_some_iff.mp opened
  obtain ⟨closing, split, same⟩ := List.dropSuffix?_eq_some_iff.mp closed
  obtain rfl := eq_of_beq same
  have inside : (')' :: ending) <:+ (line.dropPrefix? asyncMark).getD line :=
    (split ▸ List.suffix_append _ _).trans
      ((declared ▸ List.suffix_append _ _).trans (List.dropWhile_suffix isWordChar))
  obtain ⟨front, whole⟩ := inside.trans (declaration_suffix line)
  rw [← whole, List.getLast?_append_of_ne_nil _ (List.cons_ne_nil _ _)] at last
  exact other last

end Heading

/-! ### Calls -/

namespace Call

def text (call : Call) : String :=
  "this." ++ call.member ++ "." ++ call.method ++ "(" ++ String.intercalate ", " call.arguments ++ ")"

/-- A call that can be told from its text. -/
structure Legible (call : Call) : Prop where
  member : IsAtom call.member
  method : IsAtom call.method
  arguments : ∀ argument ∈ call.arguments, IsAtom argument

theorem ofLine?_text {call : Call} (legible : call.Legible) :
    ofLine? ("return " ++ call.text ++ ";").toList = some call := by
  have parted : ("return " ++ call.text ++ ";").toList = returnMark ++ (call.member.toList ++ (['.'] ++
      (call.method.toList ++ (['('] ++ ((String.intercalate ", " call.arguments).toList ++ ");".toList))))) := by
    have mark : returnMark = "return ".toList ++ "this.".toList := by decide
    simp [text, mark]
  have dot (rest : List Char) : StartsOutside (fun c => decide (c ≠ '.')) (['.'] ++ rest) := by
    rintro _ ⟨⟩
    rfl
  have parenthesis (rest : List Char) : StartsOutside (fun c => decide (c ≠ '(')) (['('] ++ rest) := by
    rintro _ ⟨⟩
    rfl
  have dropped (mark rest : List Char) : (mark ++ rest).dropPrefix? mark = some rest :=
    List.dropPrefix?_append_of_beq _ (beq_self_eq_true _)
  have closed (list : List Char) : (list ++ ");".toList).dropSuffix? ");".toList = some list :=
    List.dropSuffix?_eq_some_iff.mpr ⟨_, rfl, beq_self_eq_true _⟩
  have member := legible.member.ne '.' (by decide)
  have method := legible.method.ne '(' (by decide)
  have entries : ∀ argument ∈ call.arguments, IsEntry argument.toList :=
    fun argument listed => (legible.arguments argument listed).isEntry
  have arguments : (call.arguments.map String.toList).map String.ofList = call.arguments := by
    simp
  rw [ofLine?, parted, dropped, Option.bind_some, dropWhile_run member (dot _), dropped, Option.bind_some,
    dropWhile_run method (parenthesis _), dropped, Option.bind_some, closed, Option.map_some,
    entriesOf_intercalate entries, takeWhile_run member (dot _), takeWhile_run method (parenthesis _),
    String.ofList_toList, String.ofList_toList, arguments]

end Call

/-! ### Lines that declare and call nothing -/

/-- A line that is neither a heading nor a call. -/
structure IsIdle (line : List Char) : Prop where
  noHeading : ∀ ending, Heading.ofLine? ending line = none
  noCall : Call.ofLine? line = none

/-- The beginning of a line that shows it to be idle, whatever comes behind it. -/
structure IdleFront (front : List Char) : Prop where
  plain : ¬ (Heading.asyncMark <+: front ∨ front <+: Heading.asyncMark)
  noReturn : ¬ (Call.returnMark <+: front ∨ front <+: Call.returnMark)
  noList : (front.dropWhile isWordChar).head?.any (· ≠ '(') = true

theorem idleFront_iff {front : List Char} : IdleFront front ↔
    ¬ (Heading.asyncMark <+: front ∨ front <+: Heading.asyncMark) ∧
      ¬ (Call.returnMark <+: front ∨ front <+: Call.returnMark) ∧
      (front.dropWhile isWordChar).head?.any (· ≠ '(') = true :=
  ⟨fun parts => ⟨parts.plain, parts.noReturn, parts.noList⟩,
    fun parts => ⟨parts.1, parts.2.1, parts.2.2⟩⟩

instance : DecidablePred IdleFront :=
  fun _ => decidable_of_iff _ idleFront_iff.symm

theorem dropPrefix?_eq_none {mark front : List Char} (apart : ¬ (mark <+: front ∨ front <+: mark))
    (back : List Char) : (front ++ back).dropPrefix? mark = none := by
  rw [Option.eq_none_iff_forall_ne_some]
  intro rest marked
  obtain ⟨start, split, same⟩ := List.dropPrefix?_eq_some_iff.mp marked
  obtain rfl := eq_of_beq same
  exact apart (List.prefix_or_prefix_of_prefix (split ▸ List.prefix_append _ rest)
    (List.prefix_append front back))

theorem isIdle_append {front : List Char} (idle : IdleFront front) (back : List Char) :
    IsIdle (front ++ back) := by
  refine ⟨fun ending => ?_, ?_⟩
  · cases behind : front.dropWhile isWordChar with
    | nil =>
      have none := idle.noList
      rw [behind] at none
      cases none
    | cons c rest =>
      have other := idle.noList
      rw [behind, List.head?_cons, Option.any_some, decide_eq_true_eq] at other
      have unopened : ((c :: rest) ++ back).dropPrefix? ['('] = none := by
        apply dropPrefix?_eq_none
        rw [List.cons_prefix_cons, List.cons_prefix_cons]
        exact fun either => either.elim (fun same => other same.1.symm) fun same => other same.1
      rw [Heading.ofLine?, dropPrefix?_eq_none idle.plain, Option.getD_none, Heading.ofDeclaration?,
        List.dropWhile_append, behind, List.isEmpty_cons, if_neg Bool.false_ne_true, unopened,
        Option.bind_none]
  · rw [Call.ofLine?, dropPrefix?_eq_none idle.noReturn, Option.bind_none]

theorem isIdle_text {front : String} (idle : IdleFront front.toList) (back : String) :
    IsIdle (front ++ back).toList := by
  rw [String.toList_append]
  exact isIdle_append idle back.toList

theorem IdleFront.isIdle {line : List Char} (idle : IdleFront line) : IsIdle line := by
  have whole := isIdle_append idle []
  rwa [List.append_nil] at whole

theorem isIdle_nil : IsIdle [] :=
  ⟨fun _ => rfl, rfl⟩

theorem filterMap_idle {idle : List (List Char)} (all : ∀ line ∈ idle, IsIdle line) :
    idle.filterMap Call.ofLine? = [] :=
  List.filterMap_eq_nil_iff.mpr fun line member => (all line member).noCall

/-! ### Methods -/

namespace Method

variable {rest : List (List Char)}

theorem readAll_idle {idle : List (List Char)} (all : ∀ line ∈ idle, IsIdle line) :
    readAll none (idle ++ rest) = readAll none rest := by
  induction idle with
  | nil => rfl
  | cons line idle ih =>
    obtain ⟨here, others⟩ := List.forall_mem_cons.mp all
    rw [List.cons_append, readAll, here.noHeading, here.noHeading]
    exact ih others

theorem readAll_empty {line : List Char} {heading : Heading}
    (read : Heading.ofLine? " \x7b\x7d".toList line = some heading) :
    readAll none (line :: rest) = ⟨heading, []⟩ :: readAll none rest := by
  rw [readAll, read]

theorem readAll_body {heading : Heading} {started body : List (List Char)} (inside : ['}'] ∉ body) :
    readAll (some ⟨heading, started⟩) (body ++ ['}'] :: rest) =
      ⟨heading, started ++ body⟩ :: readAll none rest := by
  induction body generalizing started with
  | nil => rw [List.nil_append, readAll, if_pos rfl, List.append_nil]
  | cons line body ih =>
    obtain ⟨first, others⟩ := not_or.mp (mt List.mem_cons.mpr inside)
    rw [List.cons_append, readAll, if_neg (Ne.symm first), ih others, List.append_assoc,
      List.singleton_append]

theorem readAll_method {line : List Char} {heading : Heading} {body : List (List Char)}
    (read : Heading.ofLine? " \x7b".toList line = some heading) (last : line.getLast? = some '{')
    (inside : ['}'] ∉ body) :
    readAll none (line :: (body ++ ['}'] :: rest)) = ⟨heading, body⟩ :: readAll none rest := by
  rw [readAll, Heading.ofLine?_eq_none_of_getLast? last (by decide), read]
  exact readAll_body inside

end Method

end PrismaNest
