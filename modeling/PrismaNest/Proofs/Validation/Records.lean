import PrismaNest.Proofs.Entries
import PrismaNest.Validation.Reader
import PrismaNest.Validation.Shape

/-! Records read from entries.

Entries that give each field of a shape a value, in the order of the fields, are stored one by
one; if no value is refused, the record that they lead to is the one that is read.
-/

set_option autoImplicit false

namespace PrismaNest

variable {α : Type}

namespace Value

/-- A mapping whose keys are texts. -/
def ofNamed (entries : List (String × Value)) : Value :=
  .mapping (entries.map fun entry => (.text entry.1, entry.2))

@[simp] theorem sameKey_text (first second : String) :
    (text first).sameKey (text second) = decide (first = second) :=
  rfl

theorem lookupText_named (name : String) (entries : List (String × Value)) :
    lookupText name (entries.map fun entry => (.text entry.1, entry.2)) = entries.lookup name := by
  induction entries with
  | nil => rfl
  | cons entry entries ih =>
    unfold lookupText at ih ⊢
    rw [List.map_cons, List.find?_cons, List.lookup_cons]
    by_cases same : entry.1 = name
    · simp [same]
    · have other : name ≠ entry.1 := fun equal => same equal.symm
      simp only [sameKey_text, same, decide_false, beq_false_of_ne other, ih]

theorem readText_text (content : String) : readText (.text content) = .ok content :=
  rfl

theorem readTruth_bool (flag : Bool) : readTruth (.bool flag) = .ok flag :=
  rfl

theorem readNonemptyText_text {content : String} (nonempty : content ≠ "") :
    readNonemptyText (.text content) = .ok content := by
  simp [readNonemptyText, readText, nonempty]

theorem readNonemptyText_ok {value : Value} {content : String}
    (read : value.readNonemptyText = .ok content) : content ≠ "" := by
  rw [readNonemptyText] at read
  split at read
  · split at read
    · cases read
    · rename_i nonempty
      cases read
      exact nonempty
  · cases read

theorem readBounded_int {least greatest size : Nat} (low : least ≤ size) (high : size ≤ greatest) :
    readBounded least greatest (.int size) = .ok size := by
  rw [readBounded, readWhole]
  dsimp only
  rw [if_neg (by omega), if_neg (by omega), Int.toNat_natCast]

theorem readBounded_ok {value : Value} {least greatest size : Nat}
    (read : value.readBounded least greatest = .ok size) : least ≤ size ∧ size ≤ greatest := by
  rw [readBounded] at read
  split at read
  · cases read
  · split at read
    · cases read
    · split at read
      · cases read
      · cases read
        omega

end Value

theorem Checked.collectFrom_map {β : Type} {read : β → Checked α} {data : α → β} {items : List α}
    (readable : ∀ item ∈ items, read (data item) = .ok item) (index : Nat) :
    collectFrom read index (items.map data) = .ok items := by
  induction items generalizing index with
  | nil => rfl
  | cons item items ih =>
    have first := readable item List.mem_cons_self
    have others := ih (fun other member => readable other (List.mem_cons_of_mem item member)) (index + 1)
    simp [collectFrom, first, others, inside, Except.mapError]

theorem Value.readList_map {read : Value → Checked α} {data : α → Value} {items : List α}
    (readable : ∀ item ∈ items, read (data item) = .ok item) :
    readList read (.list (items.map data)) = .ok items :=
  Checked.collectFrom_map readable 0

theorem Value.readList_texts (items : List String) :
    readList readText (.list (items.map .text)) = .ok items :=
  readList_map fun _ _ => rfl

theorem Slot.store_of {β : Type} {read : Value → Checked β} {value : Value} {part : β}
    (given : read value = .ok part) (name : String) (required : Bool) (set : β → α → α) (record : α) :
    (Slot.of name required read set).store value record = .ok (set part record) := by
  simp only [Slot.of, given, Except.map]

namespace Shape

/-- Storing a value for each slot, one after the other, leads from one record to another. -/
inductive Fills : List (Slot α) → List (String × Value) → α → α → Prop where
  | nil {record : α} : Fills [] [] record record
  | cons {slot : Slot α} {slots : List (Slot α)} {value : Value} {entries : List (String × Value)}
      {record next last : α} :
      slot.store value record = .ok next → Fills slots entries next last →
      Fills (slot :: slots) ((slot.name, value) :: entries) record last

theorem Fills.map_fst {slots : List (Slot α)} {entries : List (String × Value)} {record last : α}
    (fills : Fills slots entries record last) : entries.map Prod.fst = slots.map Slot.name := by
  induction fills with
  | nil => rfl
  | cons _ _ ih => rw [List.map_cons, List.map_cons, ih]

-- The slots find their values among all entries.
theorem Fills.foldl_fill {slots : List (Slot α)} {entries : List (String × Value)} {record last : α}
    (fills : Fills slots entries record last) {all : List (Value × Value)}
    (found : ∀ entry ∈ entries, Value.lookupText entry.1 all = some entry.2) :
    slots.foldl (fill all) ⟨record, []⟩ = ⟨last, []⟩ := by
  induction fills with
  | nil => rfl
  | @cons slot slots value entries record next last stored fills ih =>
    have given := found (slot.name, value) List.mem_cons_self
    have step : fill all ⟨record, []⟩ slot = ⟨next, []⟩ := by
      simp only [fill, given, stored, Checked.inside, Except.mapError]
    rw [List.foldl_cons, step]
    exact ih fun entry member => found entry (List.mem_cons_of_mem _ member)

theorem ofValue_ofNamed {shape : Shape α} (single : (shape.slots.map Slot.name).Nodup)
    {entries : List (String × Value)} {record : α}
    (fills : Fills shape.slots entries shape.blank record) :
    shape.ofValue (.ofNamed entries) = .ok record := by
  have keys := fills.map_fst
  have found : ∀ entry ∈ entries, Value.lookupText entry.1
      (entries.map fun entry => (Value.text entry.1, entry.2)) = some entry.2 := by
    intro entry member
    rw [Value.lookupText_named]
    exact lookup_eq_some_of_mem (keys ▸ single) member
  have filled := fills.foldl_fill found
  have known : (entries.map fun entry => (Value.text entry.1, entry.2)).filterMap
      (fun entry => shape.strayIssue? entry.1) = [] := by
    rw [List.filterMap_map, List.filterMap_eq_nil_iff]
    intro entry member
    have named : entry.1 ∈ shape.slots.map Slot.name := keys ▸ List.mem_map_of_mem member
    obtain ⟨slot, listed, same⟩ := List.mem_map.mp named
    simpa [strayIssue?] using ⟨slot, listed, same⟩
  simp only [ofValue, Value.ofNamed, ofEntries, filled, known, List.append_nil, List.isEmpty_nil,
    if_true]

end Shape

end PrismaNest
