import PrismaNest.Schema.Reading
import PrismaNest.Validation.Reader
import PrismaNest.Validation.Shape

/-! Schemas and their parts as records: keys, readers and which of them must be given. -/

set_option autoImplicit false

namespace PrismaNest

namespace Enumeration

def shape : Shape Enumeration where
  title := "EnumDefinition"
  blank := ⟨"", []⟩
  slots :=
    [.of "name" true Value.readNonemptyText fun name e => { e with name },
     .of "values" false (Value.readList Value.readText) fun values e => { e with values }]

/-- The enumeration that a body declares; its name must not be empty. -/
def declared (name : String) (body : List Char) : Checked Enumeration :=
  ((Value.readNonemptyText (.text name)).inside (.name "name")).map fun given => .ofBody given body

def addValue (enumeration : Enumeration) (value : String) : Enumeration :=
  { enumeration with values := enumeration.values ++ [value] }

end Enumeration

namespace Field

def shape : Shape Field where
  title := "FieldInfo"
  blank := ⟨"", "", "", false, false, false, "", [], ""⟩
  slots :=
    [.of "name" true Value.readNonemptyText fun name f => { f with name },
     .of "raw_type" true Value.readNonemptyText fun rawType f => { f with rawType },
     .of "base_type" true Value.readNonemptyText fun baseType f => { f with baseType },
     .of "is_optional" false Value.readTruth fun isOptional f => { f with isOptional },
     .of "is_array" false Value.readTruth fun isArray f => { f with isArray },
     .of "is_enum" false Value.readTruth fun isEnum f => { f with isEnum },
     .of "ts_type" true Value.readNonemptyText fun tsType f => { f with tsType },
     .of "validators" false (Value.readList Value.readText) fun checks f => { f with checks },
     .of "exposure" true Value.readNonemptyText fun exposure f => { f with exposure }]

def addCheck (field : Field) (check : String) : Field :=
  { field with checks := field.checks ++ [check] }

end Field

namespace Model

def shape : Shape Model where
  title := "ModelDefinition"
  blank := ⟨"", []⟩
  slots :=
    [.of "name" true Value.readNonemptyText fun name m => { m with name },
     .of "fields" false (Value.readList Field.shape.ofValue) fun fields m => { m with fields }]

def addField (model : Model) (field : Field) : Model :=
  { model with fields := model.fields ++ [field] }

/-- The model that a body declares; its name must not be empty. -/
def declared (enumNames : List String) (name : String) (body : List Char) : Checked Model :=
  ((Value.readNonemptyText (.text name)).inside (.name "name")).map
    fun given => .ofBody enumNames given body

end Model

namespace Schema

def shape : Shape Schema where
  title := "SchemaDefinition"
  blank := ⟨[], [], none⟩
  slots :=
    [.of "models" false (Value.readList Model.shape.ofValue) fun models s => { s with models },
     .of "enums" false (Value.readList Enumeration.shape.ofValue) fun enums s => { s with enums },
     .of "source_file" false Value.readOptionalText fun source s => { s with source }]

end Schema

end PrismaNest
