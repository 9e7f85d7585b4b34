import PrismaNest.Proofs.Entries
import PrismaNest.Validation.Shape

/-! Assignments to records.

What holds of the blank record, and is kept by every field that stores a value, holds of every record
that is read and of all that assignments make of it. An assignment that is refused changes nothing.
-/

set_option autoImplicit false

namespace PrismaNest

variable {α : Type}

theorem Slot.of_store {β : Type} {name : String} {required : Bool} {read : Value → Checked β}
    {set : β → α → α} {value : Value} {record next : α}
    (stored : (Slot.of name required read set).store value record = .ok next) :
    ∃ part, read value = .ok part ∧ next = set part record := by
  simp only [Slot.of] at stored
  cases given : read value with
  | error issues =>
    rw [given] at stored
    cases stored
  | ok part =>
    rw [given] at stored
    cases stored
    exact ⟨part, rfl, rfl⟩

theorem Checked.of_inside_ok {place : Place} {result : Checked α} {value : α}
    (given : result.inside place = .ok value) : result = .ok value := by
  cases result with
  | error issues => cases given
  | ok other => exact given

namespace Shape

variable {shape : Shape α} {property : α → Prop} {name : String} {value : Value} {record next : α}

/-- Every field that stores a value keeps a property of the record. -/
def Preserves (slots : List (Slot α)) (property : α → Prop) : Prop :=
  ∀ slot ∈ slots, ∀ value record next, property record →
    slot.store value record = .ok next → property next

theorem Preserves.foldl_fill {slots : List (Slot α)} {draft : Draft α} {entries : List (Value × Value)}
    (preserves : Preserves slots property) (start : property draft.record) :
    property (slots.foldl (fill entries) draft).record := by
  induction slots generalizing draft with
  | nil => exact start
  | cons slot slots ih =>
    obtain ⟨first, others⟩ := List.forall_mem_cons.mp preserves
    refine ih others ?_
    rw [fill]
    split
    · split <;> exact start
    · split
      · rename_i record stored
        exact first _ _ _ start (Checked.of_inside_ok stored)
      · exact start

theorem Preserves.ofValue (preserves : Preserves shape.slots property) (start : property shape.blank)
    (built : shape.ofValue value = .ok record) : property record := by
  cases value with
  | mapping entries =>
    rw [Shape.ofValue, ofEntries] at built
    split at built
    · cases built
      exact Preserves.foldl_fill preserves start
    · cases built
  | _ => cases built

theorem of_assign_ok (assigned : shape.assign name value record = .ok next) :
    ∃ slot ∈ shape.slots, slot.name = name ∧ slot.store value record = .ok next := by
  rw [assign] at assigned
  split at assigned
  · cases assigned
  · rename_i slot found
    exact ⟨slot, List.mem_of_find?_eq_some found, by simpa using List.find?_some found,
      Checked.of_inside_ok assigned⟩

theorem Preserves.assignAll (preserves : Preserves shape.slots property) (start : property record)
    (assignments : List (String × Value)) : property (shape.assignAll assignments record) := by
  induction assignments generalizing record with
  | nil => exact start
  | cons assignment assignments ih =>
    rw [Shape.assignAll, List.foldl_cons]
    refine ih ?_
    cases assigned : shape.assign assignment.1 assignment.2 record with
    | error issues => exact start
    | ok next =>
      obtain ⟨slot, listed, -, stored⟩ := of_assign_ok assigned
      exact preserves slot listed _ _ _ start stored

theorem assignAll_concat (assignments : List (String × Value)) (name : String) (value : Value)
    (record : α) :
    shape.assignAll (assignments ++ [(name, value)]) record =
      (shape.assign name value (shape.assignAll assignments record)).toOption.getD
        (shape.assignAll assignments record) := by
  rw [assignAll, List.foldl_append]
  rfl

end Shape

end PrismaNest
