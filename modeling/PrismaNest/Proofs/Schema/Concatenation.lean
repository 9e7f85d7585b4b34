import PrismaNest.Proofs.Blocks.Concatenation
import PrismaNest.Proofs.Schema.Fields

/-! Schemas of two texts, one after the other.

The models of both texts know the enumerations of both, in whatever order the texts stand. All
that matters for the type of a field is which names are declared, not in which order or how often.
-/

set_option autoImplicit false

namespace PrismaNest

section
variable {known others : List String}

/-- Two lists of names declare the same enumerations. -/
def SameNames (known others : List String) : Prop :=
  ∀ name, name ∈ known ↔ name ∈ others

theorem SameNames.contains (same : SameNames known others) (name : String) :
    known.contains name = others.contains name := by
  rw [Bool.eq_iff_iff, List.contains_iff_mem, List.contains_iff_mem]
  exact same name

theorem Field.ofType_congr (same : SameNames known others) (name : String) (type : TypeToken) :
    Field.ofType known name type = Field.ofType others name type := by
  simp only [Field.ofType, same.contains]

theorem Field.ofLine_congr (same : SameNames known others) (line : List Char) :
    Field.ofLine known line = Field.ofLine others line := by
  unfold Field.ofLine
  split
  · simp only [Field.ofType_congr same]
  · rfl

theorem Model.ofBody_congr (same : SameNames known others) (name : String) (body : List Char) :
    Model.ofBody known name body = Model.ofBody others name body := by
  simp only [Model.ofBody, Field.ofLine_congr same]

-- A field is of an enumeration exactly if the name of its type is declared.
theorem Model.isEnum_iff_of_mem_ofBody {name : String} {body : List Char} {field : Field}
    (member : field ∈ (Model.ofBody known name body).fields) :
    field.isEnum = true ↔ field.baseType ∈ known := by
  obtain ⟨_, _, raw, _, -, -, -, rfl⟩ := exists_line_of_mem_ofBody member
  exact List.contains_iff_mem

end

namespace Schema

variable {first second : String} {known others : List String}

/-- The models of a text, where some enumerations are known. -/
def modelsOf (known : List String) (text : List Char) : List Model :=
  (Block.models text).map fun block => .ofBody known (String.ofList block.name) block.body

theorem models_ofText (text : String) (source : Option String) :
    (ofText text source).models = modelsOf (ofText text source).enumNames text.toList :=
  rfl

theorem modelsOf_congr (same : SameNames known others) (text : List Char) :
    modelsOf known text = modelsOf others text := by
  simp only [modelsOf, Model.ofBody_congr same]

theorem isEnum_iff_of_mem_modelsOf {text : List Char} {model : Model} {field : Field}
    (member : model ∈ modelsOf known text) (inside : field ∈ model.fields) :
    field.isEnum = true ↔ field.baseType ∈ known := by
  obtain ⟨block, -, rfl⟩ := List.mem_map.mp member
  exact Model.isEnum_iff_of_mem_ofBody inside

theorem enums_ofText_append (closed : first.toList.getLast? = some '}') (second : String)
    (source : Option String) :
    (ofText (first ++ second) source).enums =
      (ofText first source).enums ++ (ofText second source).enums := by
  simp only [ofText, enumsOf, String.toList_append, Block.enums_append closed, List.map_append]

theorem models_ofText_append (closed : first.toList.getLast? = some '}') (source : Option String)
    (same : SameNames (ofText (first ++ second) source).enumNames known) :
    (ofText (first ++ second) source).models =
      modelsOf known first.toList ++ modelsOf known second.toList := by
  rw [models_ofText, modelsOf_congr same, modelsOf, String.toList_append, Block.models_append closed,
    List.map_append]
  rfl

/-- Blocks are taken out of a text that ends in a closing brace as if nothing followed, and out of
what follows as if nothing stood before. Where both texts end so, their order makes no difference
but to the order of the models and of the enumerations: each model knows all enumerations. -/
theorem ofText_append (closed : first.toList.getLast? = some '}') :
    Block.models (first ++ second).toList =
        Block.models first.toList ++ Block.models second.toList ∧
      Block.enums (first ++ second).toList =
        Block.enums first.toList ++ Block.enums second.toList ∧
      (second.toList.getLast? = some '}' → ∀ source,
        let enums := (ofText first source).enums
        let more := (ofText second source).enums
        let known := (enums ++ more).map Enumeration.name
        let models := modelsOf known first.toList
        let others := modelsOf known second.toList
        (ofText (first ++ second) source).enums = enums ++ more ∧
        (ofText (second ++ first) source).enums = more ++ enums ∧
        (ofText (first ++ second) source).models = models ++ others ∧
        (ofText (second ++ first) source).models = others ++ models ∧
        ∀ model ∈ models ++ others, ∀ field ∈ model.fields,
          field.isEnum = true ↔ field.baseType ∈ known) := by
  refine ⟨?_, ?_, fun closedSecond source => ?_⟩
  · rw [String.toList_append, Block.models_append closed]
  · rw [String.toList_append, Block.enums_append closed]
  · have enums := enums_ofText_append closed second source
    have swapped := enums_ofText_append closedSecond first source
    refine ⟨enums, swapped, ?_, ?_, ?_⟩
    · refine models_ofText_append closed source fun name => ?_
      rw [enumNames, enums]
    · refine models_ofText_append closedSecond source fun name => ?_
      rw [enumNames, swapped, List.map_append, List.map_append, List.mem_append, List.mem_append,
        or_comm]
    · intro model member field inside
      rcases List.mem_append.mp member with inFirst | inSecond
      · exact isEnum_iff_of_mem_modelsOf inFirst inside
      · exact isEnum_iff_of_mem_modelsOf inSecond inside

/-- A model in an unclosed one, whose field is of an enumeration that the other text declares. -/
theorem ofText_append_enum_after_model :
    let first := "model B \x7b\nmodel A \x7b\n role Role\n\x7d"
    let second := "\x7d enum Role \x7b ADMIN \x7d"
    first.toList.getLast? = some '}' ∧ second.toList.getLast? = some '}' ∧
      Block.models (first ++ second).toList =
        Block.models first.toList ++ Block.models second.toList ∧
      ((ofText (first ++ second) none).models.map fun model =>
          (model.name, model.fields.map fun field => (field.name, field.isEnum))) =
        [("B", [("model", false), ("role", true)])] ∧
      (ofText (first ++ second) none).models = (ofText (second ++ first) none).models := by
  intro first second
  have closed : first.toList.getLast? = some '}' := by
    decide
  have closedSecond : second.toList.getLast? = some '}' := by
    decide
  obtain ⟨blocks, -, whole⟩ := @ofText_append first second closed
  obtain ⟨-, -, models, swapped, -⟩ := whole closedSecond none
  have none_second : ∀ known, modelsOf known second.toList = [] := by
    intro known
    have empty : Block.models second.toList = [] := by
      decide +kernel
    rw [modelsOf, empty, List.map_nil]
  refine ⟨closed, closedSecond, blocks, by decide +kernel, ?_⟩
  rw [models, swapped, none_second, List.append_nil, List.nil_append]

end Schema

end PrismaNest
