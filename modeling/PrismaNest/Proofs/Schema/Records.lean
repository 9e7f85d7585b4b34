import PrismaNest.Proofs.Validation.Records
import PrismaNest.Schema.Shape

/-! Schemas and their parts as plain data.

The data of a record gives each of its fields by name. Read again, it gives the same record, as
long as no text that must not be empty is.
-/

set_option autoImplicit false

namespace PrismaNest

open Shape (ofValue_ofNamed)

namespace Enumeration

def data (enumeration : Enumeration) : Value :=
  .ofNamed [("name", .text enumeration.name), ("values", .list (enumeration.values.map .text))]

theorem ofValue_data {enumeration : Enumeration} (named : enumeration.name ≠ "") :
    shape.ofValue enumeration.data = .ok enumeration := by
  apply ofValue_ofNamed (by decide)
  refine .cons (Slot.store_of (Value.readNonemptyText_text named) ..) ?_
  refine .cons (Slot.store_of (Value.readList_texts _) ..) ?_
  exact .nil

end Enumeration

namespace Field

def data (field : Field) : Value :=
  .ofNamed [("name", .text field.name), ("raw_type", .text field.rawType),
    ("base_type", .text field.baseType), ("is_optional", .bool field.isOptional),
    ("is_array", .bool field.isArray), ("is_enum", .bool field.isEnum),
    ("ts_type", .text field.tsType), ("validators", .list (field.checks.map .text)),
    ("exposure", .text field.exposure)]

/-- A field none of whose texts is empty. -/
structure Filled (field : Field) : Prop where
  name : field.name ≠ ""
  rawType : field.rawType ≠ ""
  baseType : field.baseType ≠ ""
  tsType : field.tsType ≠ ""
  exposure : field.exposure ≠ ""

theorem ofValue_data {field : Field} (filled : field.Filled) :
    shape.ofValue field.data = .ok field := by
  apply ofValue_ofNamed (by decide)
  refine .cons (Slot.store_of (Value.readNonemptyText_text filled.name) ..) ?_
  refine .cons (Slot.store_of (Value.readNonemptyText_text filled.rawType) ..) ?_
  refine .cons (Slot.store_of (Value.readNonemptyText_text filled.baseType) ..) ?_
  refine .cons (Slot.store_of (Value.readTruth_bool field.isOptional) ..) ?_
  refine .cons (Slot.store_of (Value.readTruth_bool field.isArray) ..) ?_
  refine .cons (Slot.store_of (Value.readTruth_bool field.isEnum) ..) ?_
  refine .cons (Slot.store_of (Value.readNonemptyText_text filled.tsType) ..) ?_
  refine .cons (Slot.store_of (Value.readList_texts _) ..) ?_
  refine .cons (Slot.store_of (Value.readNonemptyText_text filled.exposure) ..) ?_
  exact .nil

end Field

namespace Model

def data (model : Model) : Value :=
  .ofNamed [("name", .text model.name), ("fields", .list (model.fields.map Field.data))]

theorem ofValue_data {model : Model} (named : model.name ≠ "")
    (filled : ∀ field ∈ model.fields, field.Filled) : shape.ofValue model.data = .ok model := by
  apply ofValue_ofNamed (by decide)
  refine .cons (Slot.store_of (Value.readNonemptyText_text named) ..) ?_
  refine .cons (Slot.store_of (Value.readList_map ?_) ..) .nil
  exact fun field member => Field.ofValue_data (filled field member)

end Model

namespace Schema

def data (schema : Schema) : Value :=
  .ofNamed [("models", .list (schema.models.map Model.data)),
    ("enums", .list (schema.enums.map Enumeration.data)),
    ("source_file", (schema.source.map Value.text).getD .null)]

theorem ofValue_data {schema : Schema}
    (models : ∀ model ∈ schema.models, Model.shape.ofValue model.data = .ok model)
    (enums : ∀ enumeration ∈ schema.enums,
      Enumeration.shape.ofValue enumeration.data = .ok enumeration) :
    shape.ofValue schema.data = .ok schema := by
  have source : Value.readOptionalText ((schema.source.map Value.text).getD .null) =
      .ok schema.source := by
    cases schema.source <;> rfl
  apply ofValue_ofNamed (by decide)
  refine .cons (Slot.store_of (Value.readList_map models) ..) ?_
  refine .cons (Slot.store_of (Value.readList_map enums) ..) ?_
  exact .cons (Slot.store_of source ..) .nil

end Schema

end PrismaNest
