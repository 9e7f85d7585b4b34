import PrismaNest.Artifact.Request
import PrismaNest.Proofs.Schema.Names

/-! The decorators that a field is written with.

A check or a documentation decorator is told by its name. The checks of a field are one for its
type between those for its markers, and its documentation lists the enumeration and the marker for
lists, if there are any.
-/

set_option autoImplicit false

namespace PrismaNest

open Text

/-- A decorator lists an option between its braces. -/
def Lists (decorator option : String) : Prop :=
  ∃ front back, decorator.toList = front ++ option.toList ++ back ∧
    ("\x7b ".toList <:+ front ∨ ", ".toList <:+ front) ∧
    (" \x7d".toList <+: back ∨ ", ".toList <+: back)

/-- The checks of a type, as opposed to those of a marker. -/
def typeCheckNames : List String :=
  ["IsString", "IsInt", "IsBoolean", "IsDate", "IsNumber", "IsObject", "IsEnum"]

theorem decoratorName_eq {decorator name : String} {arguments : List Char} (plain : Lacks '(' name)
    (written : decorator.toList = name.toList ++ '(' :: arguments) : decoratorName decorator = name := by
  have all : ∀ c ∈ name.toList, decide (c ≠ '(') = true := by
    intro c member
    rw [decide_eq_true_eq]
    rintro rfl
    exact plain member
  rw [decoratorName, written, takeWhile_run all (by intro c first; cases first; rfl),
    String.ofList_toList]

theorem ScalarType.typeCheck (token : String) :
    decoratorName ((ofToken token).check ++ "()") ∈ typeCheckNames ∧
      decoratorName ((ofToken token).check ++ "()") ≠ "IsEnum" := by
  have inTable : ∀ scalar ∈ openObject :: table.map Prod.snd,
      decoratorName (scalar.check ++ "()") ∈ typeCheckNames ∧
        decoratorName (scalar.check ++ "()") ≠ "IsEnum" := by decide
  exact inTable _ (ofToken_mem token)

theorem ScalarType.tsType_plain (token : String) :
    (ofToken token).tsType ≠ "" ∧ ¬ "[]".toList <:+ (ofToken token).tsType.toList := by
  have inTable : ∀ scalar ∈ openObject :: table.map Prod.snd,
      scalar.tsType ≠ "" ∧ ¬ "[]".toList <:+ scalar.tsType.toList := by decide
  exact inTable _ (ofToken_mem token)

section
variable {checks : List String} {check : String} {isOptional isArray : Bool}
  (typed : decoratorName check ∈ typeCheckNames)
  (written : checks = (if isOptional then ["IsOptional()"] else []) ++ [check] ++
    (if isArray then ["IsArray()"] else []))
include typed written

theorem checkNames_sublist : (checks.map decoratorName).Sublist checkOrder := by
  have optional : ((if isOptional then ["IsOptional()"] else []).map decoratorName).Sublist
      ["IsOptional"] := by cases isOptional <;> decide
  have array : ((if isArray then ["IsArray()"] else []).map decoratorName).Sublist
      ["IsArray"] := by cases isArray <;> decide
  have order : checkOrder = ["IsOptional"] ++ typeCheckNames ++ ["IsArray"] := rfl
  rw [written, order, List.map_append, List.map_append]
  exact (optional.append (List.singleton_sublist.mpr typed)).append array

theorem isOptional_iff_head : isOptional = true ↔ checks.head? = some "IsOptional()" := by
  rw [written]
  cases isOptional with
  | true => simp
  | false =>
    have other : check ≠ "IsOptional()" := by
      rintro rfl
      exact absurd typed (by decide)
    simp [other]

theorem isArray_iff_getLast : isArray = true ↔ checks.getLast? = some "IsArray()" := by
  rw [written]
  cases isArray with
  | true => simp
  | false =>
    have other : check ≠ "IsArray()" := by
      rintro rfl
      exact absurd typed (by decide)
    simp [other]

end

section
variable {isOptional isArray : Bool}

def exposureDecorator (isOptional : Bool) : String :=
  if isOptional then "ApiPropertyOptional" else "ApiProperty"

-- The documentation of an enumeration, with its name in between.
theorem toList_exposureFor_some (name : String) :
    (exposureFor isOptional isArray (some name)).toList =
      (exposureDecorator isOptional).toList ++ "(\x7b enum".toList ++
        ':' :: (' ' :: name.toList ++ (if isArray then ", isArray: true \x7d)" else " \x7d)").toList) := by
  cases isArray <;> simp [exposureFor, exposureDecorator]

theorem decoratorName_exposureFor (enumName : Option String) :
    decoratorName (exposureFor isOptional isArray enumName) =
      exposureDecorator isOptional := by
  cases enumName with
  | none => cases isOptional <;> cases isArray <;> decide
  | some name =>
    have plain : Lacks '(' (exposureDecorator isOptional) := by
      cases isOptional <;> decide
    apply decoratorName_eq plain
    rw [toList_exposureFor_some, List.append_assoc]
    rfl

theorem isArray_iff_exposureFor {enumName : Option String} (words : ∀ name ∈ enumName, IsWord name) :
    isArray = true ↔ "isArray: true".toList <:+: (exposureFor isOptional isArray enumName).toList := by
  cases enumName with
  | none => cases isOptional <;> cases isArray <;> decide +kernel
  | some name =>
    rw [toList_exposureFor_some]
    cases isArray with
    | true =>
      refine ⟨fun _ => ?_, fun _ => rfl⟩
      refine ⟨(exposureDecorator isOptional).toList ++
        "(\x7b enum".toList ++ ':' :: (' ' :: name.toList ++ ", ".toList), " \x7d)".toList, ?_⟩
      simp
    | false =>
      refine ⟨fun array => (nomatch array), fun inside => ?_⟩
      -- The only colon follows the name of another option.
      obtain ⟨front, back, split⟩ := inside
      have ahead : ':' ∉ (exposureDecorator isOptional).toList ++
          "(\x7b enum".toList := by
        cases isOptional <;> decide
      have behind : ':' ∉ ' ' :: name.toList ++ " \x7d)".toList := by
        have absent : ':' ∉ name.toList := (words name rfl).lacks (by decide)
        simpa using absent
      rw [if_neg Bool.false_ne_true] at split
      have option : (front ++ "isArray".toList) ++ ':' :: (" true".toList ++ back) =
          (exposureDecorator isOptional).toList ++ "(\x7b enum".toList ++
            ':' :: (' ' :: name.toList ++ " \x7d)".toList) := by
        rw [← split]
        simp
      have before := (split_only_inj ahead behind option.symm).1
      have last := congrArg List.getLast? before
      simp at last

theorem isEnum_iff_lists {name : String} {isEnum : Bool} :
    isEnum = true ↔ Lists (exposureFor isOptional isArray (if isEnum then some name else none))
      ("enum: " ++ name) := by
  cases isEnum with
  | false =>
    refine ⟨fun enum => (nomatch enum), ?_⟩
    rintro ⟨front, back, split, -⟩
    have inside : "enum: ".toList <:+: (exposureFor isOptional isArray none).toList :=
      ⟨front, name.toList ++ back, by simpa using split.symm⟩
    revert inside
    cases isOptional <;> cases isArray <;> decide +kernel
  | true =>
    refine ⟨fun _ => ?_, fun _ => rfl⟩
    refine ⟨(exposureDecorator isOptional).toList ++ "(\x7b ".toList,
      (if isArray then ", isArray: true \x7d)" else " \x7d)").toList, ?_, .inl ?_, ?_⟩
    · rw [if_pos rfl, toList_exposureFor_some]
      simp
    · exact ⟨(exposureDecorator isOptional).toList ++ ['('], by simp⟩
    · cases isArray
      · exact .inl (by decide)
      · exact .inr (by decide)

end

theorem IsWord.not_brackets_suffix {text : String} (word : IsWord text) :
    ¬ "[]".toList <:+ text.toList := by
  intro closed
  exact word.lacks (c := ']') (by decide) (closed.mem (by decide))

theorem decoratorName_isEnum (name : String) : decoratorName ("IsEnum(" ++ name ++ ")") = "IsEnum" := by
  have written : ("IsEnum(" ++ name ++ ")").toList = "IsEnum".toList ++ '(' :: (name.toList ++ [')']) := by
    simp
  exact decoratorName_eq (by decide) written

theorem exposureFor_ne_empty (isOptional isArray : Bool) (enumName : Option String) :
    exposureFor isOptional isArray enumName ≠ "" := by
  intro empty
  have named : decoratorName (exposureFor isOptional isArray enumName) = exposureDecorator isOptional :=
    decoratorName_exposureFor enumName
  rw [empty] at named
  revert named
  cases isOptional <;> decide

end PrismaNest
