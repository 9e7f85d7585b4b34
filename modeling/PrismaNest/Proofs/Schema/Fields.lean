import PrismaNest.Proofs.Text.Pieces
import PrismaNest.Schema.Reading

/-! Lines as they are read: which lines give a field or a value, and which one. -/

set_option autoImplicit false

namespace PrismaNest

open Text

/-- A line of a body that is neither blank nor a comment. -/
def IsPlainLine (line : List Char) : Prop :=
  trim line ≠ [] ∧ ¬ "//".toList <+: trim line

/-- What a line of a body gives to read. -/
def plainLine? (line : List Char) : Option (List Char) :=
  if !(trim line).isEmpty && !isCommentLine (trim line) then some (trim line) else none

theorem isCommentLine_eq_true_iff {line : List Char} :
    isCommentLine line = true ↔ "//".toList <+: line :=
  List.isPrefixOf_iff_prefix

theorem plainLine?_eq_some_iff {line trimmed : List Char} :
    plainLine? line = some trimmed ↔ IsPlainLine line ∧ trim line = trimmed := by
  simp [plainLine?, IsPlainLine, ← Bool.not_eq_true, isCommentLine_eq_true_iff]

theorem bodyLines_eq_filterMap (body : List Char) :
    bodyLines body = (lines body).filterMap plainLine? := by
  rw [bodyLines, List.filter_map, ← List.filterMap_eq_map, List.filterMap_filter]
  rfl

-- A token holds no line feed, so nothing is tolerated after an identifier.
theorem isIdentifier_of_mem_tokens {line token : List Char} (member : token ∈ tokens line) :
    Naming.isIdentifier token = Naming.isPlainIdentifier token := by
  have last : token.getLast? ≠ some '\n' := by
    intro broken
    have blank := not_isBlank_of_mem_tokens member '\n' (List.mem_of_getLast? broken)
    exact absurd blank (by decide)
  simp [Naming.isIdentifier, last]

theorem Field.ofLine_eq_ok_iff {enumNames : List String} {line : List Char} {field : Field} :
    Field.ofLine enumNames line = .ok field ↔
      ∃ name raw others, tokens line = name :: raw :: others ∧
        Naming.isPlainIdentifier name = true ∧ (TypeToken.ofRaw raw).base ≠ [] ∧
        field = Field.ofType enumNames (String.ofList name) (TypeToken.ofRaw raw) := by
  unfold Field.ofLine
  split
  · rename_i name raw others split
    have member : name ∈ tokens line := by simp [split]
    dsimp only
    rw [isIdentifier_of_mem_tokens member]
    cases identifier : Naming.isPlainIdentifier name with
    | false => simp [split, identifier]
    | true =>
      cases base : (TypeToken.ofRaw raw).base with
      | nil => simp [split, base]
      | cons c rest =>
        constructor
        · rintro ⟨⟩
          exact ⟨name, raw, others, split, identifier, by simp [base], rfl⟩
        · rintro ⟨_, _, _, again, -, -, rfl⟩
          rw [split] at again
          cases again
          rfl
  · rename_i short
    refine ⟨fun read => (nomatch read), ?_⟩
    rintro ⟨name, raw, others, split, -⟩
    exact absurd split (short name raw others)

theorem enumValue_eq_ok_iff {line : List Char} {value : String} :
    enumValue line = .ok value ↔
      ∃ token others, tokens line = token :: others ∧ Naming.isPlainIdentifier token = true ∧
        value = String.ofList token := by
  unfold enumValue
  cases split : tokens line with
  | nil => simp [Naming.isIdentifier, Naming.isPlainIdentifier]
  | cons token others =>
    have member : token ∈ tokens line := by simp [split]
    simp only [List.headD_cons, isIdentifier_of_mem_tokens member]
    cases identifier : Naming.isPlainIdentifier token with
    | false => simp [identifier]
    | true =>
      constructor
      · rintro ⟨⟩
        exact ⟨token, others, rfl, identifier, rfl⟩
      · rintro ⟨_, _, again, -, rfl⟩
        cases again
        rfl

theorem toOption_eq_some_iff {ε α : Type} {result : Except ε α} {value : α} :
    result.toOption = some value ↔ result = .ok value := by
  cases result <;> simp [Except.toOption]

-- A model's fields come from the plain lines of its body.
theorem Model.ofBody_fields (enumNames : List String) (name : String) (body : List Char) :
    (Model.ofBody enumNames name body).fields =
      (lines body).filterMap fun line =>
        (plainLine? line).bind fun trimmed => (Field.ofLine enumNames trimmed).toOption := by
  rw [Model.ofBody, bodyLines_eq_filterMap, List.filterMap_filterMap]

-- Each field has its name and its type from one line.
theorem Model.exists_line_of_mem_ofBody {enumNames : List String} {name : String} {body : List Char}
    {field : Field} (member : field ∈ (Model.ofBody enumNames name body).fields) :
    ∃ line token raw others, tokens line = token :: raw :: others ∧
      Naming.isPlainIdentifier token = true ∧ (TypeToken.ofRaw raw).base ≠ [] ∧
      field = Field.ofType enumNames (String.ofList token) (TypeToken.ofRaw raw) := by
  obtain ⟨line, -, read⟩ := List.mem_filterMap.mp member
  exact ⟨line, Field.ofLine_eq_ok_iff.mp (toOption_eq_some_iff.mp read)⟩

theorem Enumeration.ofBody_values (name : String) (body : List Char) :
    (Enumeration.ofBody name body).values =
      (lines body).filterMap fun line =>
        (plainLine? line).bind fun trimmed => (enumValue trimmed).toOption := by
  rw [Enumeration.ofBody, bodyLines_eq_filterMap, List.filterMap_filterMap]

end PrismaNest
