import PrismaNest.Validation.Issue

/-! Shapes of records.

A shape lists the fields of a record; each reads a value and stores it. A record is
built from entries by storing them field by field, starting from the defaults, and
a single field of a record is assigned in the same way. Entries that no field has
are refused.
-/

set_option autoImplicit false

namespace PrismaNest

/-- A field of a record: its name, whether it must be given, and how a value is stored in it. -/
structure Slot (α : Type) where
  name : String
  required : Bool
  store : Value → α → Checked α

def Slot.of {α β : Type} (name : String) (required : Bool) (read : Value → Checked β)
    (set : β → α → α) : Slot α where
  name
  required
  store value record := (read value).map fun part => set part record

structure Shape (α : Type) where
  /-- The name of this kind of record, as messages give it. -/
  title : String
  /-- The record in which no field has been given. -/
  blank : α
  slots : List (Slot α)

structure Draft (α : Type) where
  record : α
  issues : List Issue

namespace Shape

variable {α : Type}

def fill (entries : List (Value × Value)) (draft : Draft α) (slot : Slot α) : Draft α :=
  match Value.lookupText slot.name entries with
  | none =>
    if slot.required then
      { draft with issues := draft.issues ++ [⟨.missing, [.name slot.name]⟩] }
    else draft
  | some value =>
    match (slot.store value draft.record).inside (.name slot.name) with
    | .ok record => { draft with record }
    | .error issues => { draft with issues := draft.issues ++ issues }

def strayIssue? (shape : Shape α) (key : Value) : Option Issue :=
  match key with
  | .text name =>
    if shape.slots.any (·.name = name) then none else some ⟨.unknownKey, [.name name]⟩
  | other => some ⟨.keyNotText, [Issue.keyPlace other]⟩

def ofEntries (shape : Shape α) (entries : List (Value × Value)) : Checked α :=
  let draft := shape.slots.foldl (fill entries) ⟨shape.blank, []⟩
  let issues := draft.issues ++ entries.filterMap fun entry => shape.strayIssue? entry.1
  if issues.isEmpty then .ok draft.record else .error issues

def ofValue (shape : Shape α) : Value → Checked α
  | .mapping entries => shape.ofEntries entries
  | _ => .refuse (.notRecord shape.title)

/-- Stores a value in one field of a record, which otherwise stays as it is. -/
def assign (shape : Shape α) (name : String) (value : Value) (record : α) : Checked α :=
  match shape.slots.find? (·.name = name) with
  | none => .error [⟨.noSuchField name, [.name name]⟩]
  | some slot => (slot.store value record).inside (.name name)

/-- Stores values one after another. A value that is refused leaves the record as it is. -/
def assignAll (shape : Shape α) (assignments : List (String × Value)) (record : α) : α :=
  assignments.foldl (fun current assignment =>
    (shape.assign assignment.1 assignment.2 current).toOption.getD current) record

end Shape

end PrismaNest
