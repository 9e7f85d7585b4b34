import Mathlib.Data.List.Infix
import Mathlib.Logic.Function.Basic
import Mathlib.Tactic.IntervalCases
import PrismaNest.Proofs.Naming.Casing
import PrismaNest.Scaffold.Template

/-! Rendering a template at once, and round by round.

A template is read once from left to right: at each place stands a placeholder that starts there,
or else a single character. Filling all placeholders of this reading at once is what the rounds of
replacement come to, as long as each round finds its placeholder only where the reading has it. It
may also find one across the seams that an earlier round has made, or inside the name.
-/

set_option autoImplicit false

namespace PrismaNest

/-! ### Replacing one text -/

section
variable {searched replacement text rest : List Char} {c : Char}

theorem replaceFrom_drop (searched replacement : List Char) (passing : Nat) (text : List Char) :
    replaceFrom searched replacement passing text =
      replaceFrom searched replacement 0 (text.drop passing) := by
  induction text generalizing passing with
  | nil => cases passing <;> rfl
  | cons c rest ih =>
    cases passing with
    | zero => rfl
    | succ more => exact ih more

-- An occurrence is replaced, and passed over.
theorem replaceFrom_occurrence (nonempty : searched ≠ []) (replacement rest : List Char) :
    replaceFrom searched replacement 0 (searched ++ rest) =
      replacement ++ replaceFrom searched replacement 0 rest := by
  obtain ⟨c, more, rfl⟩ := List.exists_cons_of_ne_nil nonempty
  have starts : (c :: more).isPrefixOf ((c :: more) ++ rest) = true :=
    List.isPrefixOf_iff_prefix.mpr (List.prefix_append _ _)
  rw [List.cons_append] at starts ⊢
  rw [replaceFrom, if_pos starts, replaceFrom_drop, List.length_cons, Nat.add_sub_cancel,
    List.drop_left]

theorem replaceFrom_cons (absent : ¬ searched <+: c :: rest) (replacement : List Char) :
    replaceFrom searched replacement 0 (c :: rest) =
      c :: replaceFrom searched replacement 0 rest := by
  rw [replaceFrom, if_neg (by rwa [List.isPrefixOf_iff_prefix])]

theorem replaceFrom_append (absent : ∀ start < text.length, ¬ searched <+: (text ++ rest).drop start)
    (replacement : List Char) : replaceFrom searched replacement 0 (text ++ rest) =
      text ++ replaceFrom searched replacement 0 rest := by
  induction text with
  | nil => rfl
  | cons c text ih =>
    have here : ¬ searched <+: c :: (text ++ rest) := absent 0 (Nat.succ_pos _)
    rw [List.cons_append, replaceFrom_cons here, List.cons_append]
    congr 1
    refine ih fun start inside => ?_
    have later := absent (start + 1) (Nat.succ_lt_succ inside)
    rwa [List.cons_append, List.drop_succ_cons] at later

end

/-! ### Templates read once -/

inductive Placeholder where
  | rawName
  | className
  | variableName
  deriving DecidableEq, Repr

namespace Placeholder

def all : List Placeholder :=
  [rawName, className, variableName]

def spelling : Placeholder → List Char
  | rawName => Template.namePlaceholder.toList
  | className => Template.classPlaceholder.toList
  | variableName => Template.variablePlaceholder.toList

/-- What a placeholder stands for, given the name of the resource. -/
def meaning (name : String) : Placeholder → List Char
  | rawName => name.toList
  | className => (Naming.pascalCase name).toList
  | variableName => (Naming.camelCase name).toList

/-- The placeholder that a text starts with. -/
def start? (text : List Char) : Option Placeholder :=
  all.find? fun placeholder => placeholder.spelling.isPrefixOf text

theorem spelling_ne_nil (placeholder : Placeholder) : placeholder.spelling ≠ [] := by
  cases placeholder <;> decide

theorem eq_append_of_start? {placeholder : Placeholder} {text : List Char}
    (starts : start? text = some placeholder) : ∃ rest, text = placeholder.spelling ++ rest := by
  have isPrefix := List.find?_some starts
  obtain ⟨rest, same⟩ := List.isPrefixOf_iff_prefix.mp isPrefix
  exact ⟨rest, same.symm⟩

theorem absent_of_start? {text : List Char} (none_starts : start? text = none)
    (placeholder : Placeholder) : ¬ placeholder.spelling <+: text := by
  have listed : placeholder ∈ all := by cases placeholder <;> decide
  have other := List.find?_eq_none.mp none_starts placeholder listed
  rwa [List.isPrefixOf_iff_prefix] at other

end Placeholder

/-- A part of a template: a character that stands for itself, or a placeholder. -/
inductive Piece where
  | letter (c : Char)
  | hole (placeholder : Placeholder)
  deriving DecidableEq, Repr

/-- What stands for each placeholder. -/
abbrev Filling := Placeholder → List Char

def Piece.text (filling : Filling) : Piece → List Char
  | .letter c => [c]
  | .hole placeholder => filling placeholder

def fill (filling : Filling) (pieces : List Piece) : List Char :=
  pieces.flatMap (Piece.text filling)

@[simp] theorem fill_nil (filling : Filling) : fill filling [] = [] :=
  rfl

@[simp] theorem fill_cons (filling : Filling) (piece : Piece) (pieces : List Piece) :
    fill filling (piece :: pieces) = piece.text filling ++ fill filling pieces :=
  rfl

/-- The pieces of a text, given how many characters of the last placeholder are still to be
passed. -/
def piecesFrom (passing : Nat) : List Char → List Piece
  | [] => []
  | c :: rest =>
    match passing with
    | more + 1 => piecesFrom more rest
    | 0 =>
      match Placeholder.start? (c :: rest) with
      | some placeholder => .hole placeholder :: piecesFrom (placeholder.spelling.length - 1) rest
      | none => .letter c :: piecesFrom 0 rest

/-- A reading of a text from left to right. A character stands for itself only where no placeholder
starts. -/
inductive IsReading : List Char → List Piece → Prop where
  | nil : IsReading [] []
  | hole (placeholder : Placeholder) {rest : List Char} {pieces : List Piece} :
      IsReading rest pieces →
      IsReading (placeholder.spelling ++ rest) (.hole placeholder :: pieces)
  | letter {c : Char} {rest : List Char} {pieces : List Piece} :
      (∀ placeholder : Placeholder, ¬ placeholder.spelling <+: c :: rest) →
      IsReading rest pieces → IsReading (c :: rest) (.letter c :: pieces)

theorem piecesFrom_drop (passing : Nat) (text : List Char) :
    piecesFrom passing text = piecesFrom 0 (text.drop passing) := by
  induction text generalizing passing with
  | nil => cases passing <;> rfl
  | cons c rest ih =>
    cases passing with
    | zero => rfl
    | succ more => exact ih more

-- By induction on the length, as a placeholder takes several characters.
theorem isReading_piecesFrom (text : List Char) : IsReading text (piecesFrom 0 text) := by
  induction size : text.length using Nat.strong_induction_on generalizing text with
  | _ count ih =>
    cases text with
    | nil => exact .nil
    | cons c rest =>
      rw [List.length_cons] at size
      cases starts : Placeholder.start? (c :: rest) with
      | none =>
        have pieces : piecesFrom 0 (c :: rest) = .letter c :: piecesFrom 0 rest := by
          rw [piecesFrom, starts]
        rw [pieces]
        exact .letter (Placeholder.absent_of_start? starts) (ih _ (by omega) rest rfl)
      | some placeholder =>
        obtain ⟨left, same⟩ := Placeholder.eq_append_of_start? starts
        obtain ⟨first, more, spelled⟩ := List.exists_cons_of_ne_nil placeholder.spelling_ne_nil
        have behind : left = rest.drop (placeholder.spelling.length - 1) := by
          rw [spelled, List.cons_append] at same
          rw [(List.cons.inj same).2, spelled, List.length_cons, Nat.add_sub_cancel, List.drop_left]
        have pieces : piecesFrom 0 (c :: rest) = .hole placeholder :: piecesFrom 0 left := by
          rw [piecesFrom, starts, behind]
          exact congrArg _ (piecesFrom_drop _ _)
        have shorter : left.length < count := by
          rw [behind, List.length_drop]
          omega
        rw [pieces, same]
        exact .hole placeholder (ih _ shorter left rfl)

theorem IsReading.fill_spelling {text : List Char} {pieces : List Piece}
    (reading : IsReading text pieces) : fill Placeholder.spelling pieces = text := by
  induction reading with
  | nil => rfl
  | hole placeholder reading ih => rw [fill_cons, ih, Piece.text]
  | letter absent reading ih => rw [fill_cons, ih, Piece.text, List.singleton_append]

/-! ### Rounds -/

/-- In what pieces stand for, a placeholder starts nowhere but in its own holes. -/
def OnlyInHoles (placeholder : Placeholder) (filling : Filling) (pieces : List Piece) : Prop :=
  ∀ left ∈ pieces.tails, ∀ piece ∈ left.head?, piece ≠ .hole placeholder →
    ∀ start < (piece.text filling).length, ¬ placeholder.spelling <+: (fill filling left).drop start

instance (placeholder : Placeholder) (filling : Filling) (pieces : List Piece) :
    Decidable (OnlyInHoles placeholder filling pieces) :=
  inferInstanceAs (Decidable (∀ left ∈ pieces.tails, ∀ piece ∈ left.head?, _))

section
variable {placeholder : Placeholder} {filling : Filling} {pieces : List Piece}

theorem OnlyInHoles.tail {piece : Piece} (only : OnlyInHoles placeholder filling (piece :: pieces)) :
    OnlyInHoles placeholder filling pieces :=
  fun left member => only left (by rw [List.tails_cons]; exact List.mem_cons_of_mem _ member)

theorem OnlyInHoles.head {piece : Piece} (only : OnlyInHoles placeholder filling (piece :: pieces))
    (other : piece ≠ .hole placeholder) : ∀ start < (piece.text filling).length,
      ¬ placeholder.spelling <+: (piece.text filling ++ fill filling pieces).drop start :=
  only (piece :: pieces) (by simp) piece rfl other

-- The step of the induction: a hole of the placeholder is replaced, what stands for any other piece
-- is passed over.
theorem replaceFrom_fill (spelled : filling placeholder = placeholder.spelling)
    (only : OnlyInHoles placeholder filling pieces) (replacement : List Char) :
    replaceFrom placeholder.spelling replacement 0 (fill filling pieces) =
      fill (Function.update filling placeholder replacement) pieces := by
  induction pieces with
  | nil => rfl
  | cons piece pieces ih =>
    rw [fill_cons, fill_cons]
    by_cases own : piece = .hole placeholder
    · subst own
      rw [Piece.text, Piece.text, spelled, Function.update_self,
        replaceFrom_occurrence placeholder.spelling_ne_nil, ih only.tail]
    · have kept : piece.text (Function.update filling placeholder replacement) =
          piece.text filling := by
        cases piece with
        | letter c => rfl
        | hole other =>
          exact Function.update_of_ne (fun same => own (congrArg Piece.hole same)) _ _
      rw [kept, replaceFrom_append (only.head own), ih only.tail]

end

namespace Template

open Text (Lacks)

/-- What stands for the placeholders of a template after some of them have been replaced. -/
def stage (name : String) (replaced : List Placeholder) : Filling :=
  fun placeholder => if placeholder ∈ replaced then placeholder.meaning name else placeholder.spelling

theorem update_stage (name : String) (replaced : List Placeholder) (placeholder : Placeholder) :
    Function.update (stage name replaced) placeholder (placeholder.meaning name) =
      stage name (placeholder :: replaced) := by
  funext other
  by_cases same : other = placeholder
  · subst same
    simp [stage]
  · simp [stage, same]

def pieces (template : String) : List Piece :=
  piecesFrom 0 template.toList

/-- A template with all its placeholders replaced at once. -/
def renderAtOnce (template name : String) : String :=
  String.ofList (fill (Placeholder.meaning name) (pieces template))

/-- The rounds of rendering do not disturb each other: where the placeholders of earlier rounds have
been replaced, the next one is found only where the template has it. -/
structure Undisturbed (template name : String) : Prop where
  rawName : OnlyInHoles .rawName (stage name []) (pieces template)
  className : OnlyInHoles .className (stage name [.rawName]) (pieces template)
  variableName : OnlyInHoles .variableName (stage name [.className, .rawName]) (pieces template)

theorem undisturbed_iff {template name : String} : Undisturbed template name ↔
    OnlyInHoles .rawName (stage name []) (pieces template) ∧
      OnlyInHoles .className (stage name [.rawName]) (pieces template) ∧
      OnlyInHoles .variableName (stage name [.className, .rawName]) (pieces template) :=
  ⟨fun rounds => ⟨rounds.rawName, rounds.className, rounds.variableName⟩,
    fun rounds => ⟨rounds.1, rounds.2.1, rounds.2.2⟩⟩

instance (template name : String) : Decidable (Undisturbed template name) :=
  decidable_of_iff _ undisturbed_iff.symm

theorem fill_stage_nil (template name : String) :
    fill (stage name []) (pieces template) = template.toList := by
  have spelled : stage name [] = Placeholder.spelling := by
    funext placeholder
    simp [stage]
  rw [spelled, pieces, (isReading_piecesFrom template.toList).fill_spelling]

theorem replaceFrom_stage {name : String} {placeholder : Placeholder} {replaced : List Placeholder}
    (fresh : placeholder ∉ replaced) {pieces : List Piece}
    (only : OnlyInHoles placeholder (stage name replaced) pieces) :
    replaceFrom placeholder.spelling (placeholder.meaning name) 0 (fill (stage name replaced) pieces) =
      fill (stage name (placeholder :: replaced)) pieces := by
  rw [replaceFrom_fill (if_neg fresh) only, update_stage]

theorem render_of_undisturbed {template name : String} (rounds : Undisturbed template name) :
    render template name = renderAtOnce template name := by
  have first := replaceFrom_stage (by decide) rounds.rawName
  have second := replaceFrom_stage (by decide) rounds.className
  have third := replaceFrom_stage (by decide) rounds.variableName
  have whole : stage name [.variableName, .className, .rawName] = Placeholder.meaning name := by
    funext placeholder
    cases placeholder <;> rfl
  rw [fill_stage_nil] at first
  rw [whole] at third
  simp only [render, replaceAll, String.toList_ofList, renderAtOnce]
  rw [← third, ← second, ← first]
  rfl

/-! ### Plain names -/

/-- A name that cannot become part of a placeholder: it has no underscore, and not only capitals. -/
def IsPlainName (name : String) : Prop :=
  Lacks '_' name ∧ ∃ c ∈ name.toList, c.isUpper = false

instance (name : String) : Decidable (IsPlainName name) :=
  inferInstanceAs (Decidable (_ ∧ _))

/-- A template whose underscores all belong to its placeholders, and which has placeholders only where
they are read. -/
structure IsPlainTemplate (template : String) : Prop where
  noUnderscore : Piece.letter '_' ∉ pieces template
  onlyInHoles : ∀ placeholder, OnlyInHoles placeholder Placeholder.spelling (pieces template)

-- What an underscore starts, starts in a text with an underscore.
theorem mem_of_prefix_drop {text rest more : List Char} {c : Char} {start : Nat}
    (inside : start < text.length) (starts : c :: more <+: (text ++ rest).drop start) : c ∈ text := by
  rw [List.drop_append_of_le_length (Nat.le_of_lt inside), List.drop_eq_getElem_cons inside,
    List.cons_append, List.cons_prefix_cons] at starts
  rw [starts.1]
  exact List.getElem_mem inside

theorem prefix_of_append_prefix {word text rest more : List Char} {c : Char} (other : c ∉ text)
    (starts : word ++ c :: more <+: text ++ rest) : text <+: word := by
  induction text generalizing word with
  | nil => exact List.nil_prefix
  | cons first text ih =>
    rw [List.mem_cons, not_or] at other
    cases word with
    | nil =>
      rw [List.nil_append, List.cons_append, List.cons_prefix_cons] at starts
      exact absurd starts.1 other.1
    | cons second word =>
      rw [List.cons_append, List.cons_append, List.cons_prefix_cons] at starts
      rw [List.cons_prefix_cons]
      exact ⟨starts.1.symm, ih other.2 starts.2⟩

section
variable {name : String} {pieces : List Piece}

-- After the round for the name: letters, the name, and placeholders that are still spelled.
theorem stage_cases (name : String) {piece : Piece} (noUnderscore : piece ≠ .letter '_') :
    (∃ c, piece = .letter c ∧ c ≠ '_') ∨ piece = .hole .rawName ∨
      ∃ more, piece.text (stage name [.rawName]) = '_' :: '_' :: more ∧
        piece.text Placeholder.spelling = '_' :: '_' :: more := by
  cases piece with
  | letter c => exact .inl ⟨c, rfl, fun same => noUnderscore (congrArg Piece.letter same)⟩
  | hole placeholder =>
    cases placeholder with
    | rawName => exact .inr (.inl rfl)
    | className => exact .inr (.inr ⟨_, rfl, rfl⟩)
    | variableName => exact .inr (.inr ⟨_, rfl, rfl⟩)

theorem IsPlainName.exists_cons (plain : IsPlainName name) :
    ∃ c more, name.toList = c :: more ∧ c ≠ '_' := by
  obtain ⟨lacks, d, member, -⟩ := plain
  obtain ⟨c, more, spelled⟩ := List.exists_cons_of_ne_nil (List.ne_nil_of_mem member)
  refine ⟨c, more, spelled, ?_⟩
  rintro rfl
  exact lacks (by rw [spelled]; exact List.mem_cons_self)

-- Behind an underscore comes another one, as only placeholders have any.
theorem eq_of_leading_underscore (plain : IsPlainName name) (noUnderscore : Piece.letter '_' ∉ pieces)
    {c : Char} {more : List Char}
    (starts : '_' :: c :: more <+: fill (stage name [.rawName]) pieces) : c = '_' := by
  cases pieces with
  | nil => simp at starts
  | cons piece pieces =>
    rw [fill_cons] at starts
    rcases stage_cases name (List.ne_of_not_mem_cons noUnderscore).symm with
      ⟨d, rfl, other⟩ | rfl | ⟨letters, text, -⟩
    · rw [Piece.text, List.singleton_append, List.cons_prefix_cons] at starts
      exact absurd starts.1.symm other
    · obtain ⟨d, letters, spelled, other⟩ := plain.exists_cons
      have text : (Piece.hole .rawName).text (stage name [.rawName]) = d :: letters := spelled
      rw [text, List.cons_append, List.cons_prefix_cons] at starts
      exact absurd starts.1.symm other
    · rw [text, List.cons_append, List.cons_append, List.cons_prefix_cons, List.cons_prefix_cons]
        at starts
      exact starts.2.1

-- Capitals in front of a placeholder are letters of the template: a plain name is not among them.
theorem prefix_spelled (plain : IsPlainName name) (noUnderscore : Piece.letter '_' ∉ pieces)
    {capitals : List Char} (upper : ∀ c ∈ capitals, c.isUpper = true)
    (starts : capitals ++ ['_', '_'] <+: fill (stage name [.rawName]) pieces) :
    capitals ++ ['_', '_'] <+: fill Placeholder.spelling pieces := by
  induction pieces generalizing capitals with
  | nil => simp at starts
  | cons piece pieces ih =>
    rw [fill_cons] at starts ⊢
    have further := List.not_mem_of_not_mem_cons noUnderscore
    rcases stage_cases name (List.ne_of_not_mem_cons noUnderscore).symm with
      ⟨d, rfl, other⟩ | rfl | ⟨letters, text, spelled⟩
    · cases capitals with
      | nil =>
        rw [Piece.text, List.nil_append, List.singleton_append, List.cons_prefix_cons] at starts
        exact absurd starts.1.symm other
      | cons c capitals =>
        rw [Piece.text, List.singleton_append, List.cons_append, List.cons_prefix_cons] at starts ⊢
        exact ⟨starts.1, ih further (List.forall_mem_cons.mp upper).2 starts.2⟩
    · obtain ⟨lacks, c, member, small⟩ := plain
      have inside : name.toList <+: capitals := prefix_of_append_prefix lacks starts
      rw [upper c (inside.subset member)] at small
      cases small
    · cases capitals with
      | nil =>
        rw [spelled]
        exact ⟨letters ++ fill Placeholder.spelling pieces, rfl⟩
      | cons c capitals =>
        rw [text, List.cons_append, List.cons_append, List.cons_prefix_cons] at starts
        have capital := upper c List.mem_cons_self
        rw [starts.1] at capital
        cases capital

theorem onlyInHoles_className (plain : IsPlainName name) (noUnderscore : Piece.letter '_' ∉ pieces)
    (only : OnlyInHoles .className Placeholder.spelling pieces) :
    OnlyInHoles .className (stage name [.rawName]) pieces := by
  intro left member piece head other start inside starts
  obtain ⟨behind, rfl⟩ : ∃ behind, left = piece :: behind :=
    ⟨left.tail, (List.cons_head?_tail head).symm⟩
  have within : piece :: behind ⊆ pieces := ((List.mem_tails _ _).mp member).subset
  have further : Piece.letter '_' ∉ behind := fun among => noUnderscore (within (.tail _ among))
  cases piece with
  | letter c =>
    obtain rfl := List.mem_singleton.mp (mem_of_prefix_drop inside starts)
    exact noUnderscore (within List.mem_cons_self)
  | hole placeholder =>
    cases placeholder with
    | rawName => exact plain.1 (mem_of_prefix_drop inside starts)
    | className => exact other rfl
    | variableName =>
      -- Of the letters of the other placeholder only the last two can start this one.
      have size : start < 7 := inside
      change "__CLASS__".toList <+:
        ("__VAR__".toList ++ fill (stage name [.rawName]) behind).drop start at starts
      have crossing : ∀ filling : Filling,
          "__CLASS__".toList <+: ("__VAR__".toList ++ fill filling behind).drop 5 ↔
            "CLASS".toList ++ ['_', '_'] <+: fill filling behind := by
        intro filling
        simp
      interval_cases start
      case «5» =>
        have capitals : ∀ c ∈ "CLASS".toList, c.isUpper = true := List.all_eq_true.mp (by decide)
        have spelled := prefix_spelled plain further capitals ((crossing _).mp starts)
        exact only _ member _ head other 5 (by decide) ((crossing _).mpr spelled)
      case «6» =>
        have next : ['_', 'C'] <+: fill (stage name [.rawName]) behind := by
          simp only [String.reduceToList, List.cons_append, List.nil_append, List.drop_succ_cons,
            List.drop_zero, List.cons_prefix_cons] at starts
          exact List.IsPrefix.trans ⟨_, rfl⟩ starts.2
        exact absurd (eq_of_leading_underscore plain further next) (by decide)
      all_goals
        simp at starts

theorem onlyInHoles_of_lacks {placeholder : Placeholder} {filling : Filling}
    (lacks : ∀ piece ∈ pieces, piece ≠ .hole placeholder → '_' ∉ piece.text filling) :
    OnlyInHoles placeholder filling pieces := by
  intro left member piece head other start inside starts
  obtain ⟨behind, rfl⟩ : ∃ behind, left = piece :: behind :=
    ⟨left.tail, (List.cons_head?_tail head).symm⟩
  have among : piece ∈ pieces := ((List.mem_tails _ _).mp member).subset List.mem_cons_self
  obtain ⟨more, spelled⟩ : ∃ more, placeholder.spelling = '_' :: more := by
    cases placeholder <;> exact ⟨_, rfl⟩
  rw [spelled] at starts
  exact lacks piece among other (mem_of_prefix_drop inside starts)

end

theorem lacks_pascalCase (name : String) : Lacks '_' (Naming.pascalCase name) := by
  intro member
  rw [Naming.pascalCase, String.toList_join, List.mem_flatMap] at member
  obtain ⟨spelling, listed, inside⟩ := member
  obtain ⟨word, isWord, rfl⟩ := List.mem_map.mp listed
  have spelled := Naming.isSpelled_of_mem_words isWord
  exact absurd (spelled.isOneWord_capitalize.isAlphanum _ inside) (by decide)

theorem undisturbed_of_plain {template name : String} (plainTemplate : IsPlainTemplate template)
    (plain : IsPlainName name) : Undisturbed template name where
  rawName := by
    have spelled : stage name [] = Placeholder.spelling := by
      funext placeholder
      simp [stage]
    rw [spelled]
    exact plainTemplate.onlyInHoles .rawName
  className :=
    onlyInHoles_className plain plainTemplate.noUnderscore (plainTemplate.onlyInHoles .className)
  variableName := by
    -- By now only the holes of the last round have underscores.
    refine onlyInHoles_of_lacks fun piece member other => ?_
    cases piece with
    | letter c =>
      intro underscore
      obtain rfl := List.mem_singleton.mp underscore
      exact plainTemplate.noUnderscore member
    | hole placeholder =>
      cases placeholder with
      | rawName => exact plain.1
      | className => exact lacks_pascalCase name
      | variableName => exact absurd rfl other

/-- Rendering fills in all placeholders of a reading from left to right at once, unless a round finds
its placeholder where the reading does not have it. In a template that has underscores and
placeholders only where they are read, no name without underscores comes to this, unless it is
capitals throughout. -/
theorem render_eq_renderAtOnce (template name : String) :
    IsReading template.toList (pieces template) ∧
      (Undisturbed template name → render template name = renderAtOnce template name) ∧
      (IsPlainTemplate template → IsPlainName name → Undisturbed template name) :=
  ⟨isReading_piecesFrom _, render_of_undisturbed, undisturbed_of_plain⟩

/-- A line of a template, which has underscores besides those of its placeholders. -/
theorem render_eq_renderAtOnce_line :
    let template := "this.__VAR__Service.create_one(__CLASS____NAME__)"
    Undisturbed template "order-item" ∧
      render template "order-item" = renderAtOnce template "order-item" := by
  intro template
  have rounds : Undisturbed template "order-item" := by decide +kernel
  exact ⟨rounds, (render_eq_renderAtOnce template "order-item").2.1 rounds⟩

/-- A name that is a placeholder is replaced itself, and a placeholder of a later round loses to
an earlier one that shares underscores with it. -/
theorem render_replaces_again :
    render "__NAME__" "__CLASS__" = "Class" ∧ renderAtOnce "__NAME__" "__CLASS__" = "__CLASS__" ∧
      render "__CLASS__NAME__" "user" = "__CLASSuser" ∧
      renderAtOnce "__CLASS__NAME__" "user" = "UserNAME__" := by
  decide +kernel

end Template

end PrismaNest
