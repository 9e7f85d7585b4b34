import PrismaNest.Proofs.Validation.Assignments
import PrismaNest.Proofs.Validation.Records

/-! Which entries make a record.

A reader that refuses a value says why. So a record is read from entries exactly if each field takes
the value that it is given, and each key is the name of a field. Whether a value is taken does not
depend on the other fields.
-/

set_option autoImplicit false

namespace PrismaNest

variable {α β : Type}

/-! ### Refusals -/

/-- A reader gives a reason for every value that it refuses. -/
def Explains (read : Value → Checked β) : Prop :=
  ∀ value, read value ≠ .error []

namespace Value

theorem explains_readText : Explains readText := by
  intro value refused
  cases value <;> cases refused

theorem explains_readNonemptyText : Explains readNonemptyText := by
  intro value refused
  rw [readNonemptyText] at refused
  split at refused
  · split at refused <;> cases refused
  · rename_i issues given
    cases refused
    exact explains_readText value given

theorem explains_truthOfInt (number : Int) : truthOfInt number ≠ .error [] := by
  intro refused
  rw [truthOfInt] at refused
  repeat' split at refused
  all_goals cases refused

theorem explains_readTruth : Explains readTruth := by
  intro value refused
  unfold readTruth at refused
  split at refused
  · cases refused
  · exact explains_truthOfInt _ refused
  · split at refused
    · cases refused
    · split at refused
      · cases refused
      · exact explains_truthOfInt _ refused
  · split at refused <;> cases refused
  · cases refused

theorem explains_wholeOfText (text : List Char) : wholeOfText text ≠ .error [] := by
  intro refused
  unfold wholeOfText at refused
  split at refused <;> cases refused

theorem explains_readWhole : Explains readWhole := by
  intro value refused
  unfold readWhole at refused
  split at refused
  · cases refused
  · cases refused
  · split at refused
    · split at refused
      · cases refused
      · split at refused <;> cases refused
    · cases refused
  · exact explains_wholeOfText _ refused
  · cases refused

theorem explains_readBounded (least greatest : Nat) : Explains (readBounded least greatest) := by
  intro value refused
  rw [readBounded] at refused
  split at refused
  · rename_i issues given
    cases refused
    exact explains_readWhole value given
  · repeat' split at refused
    all_goals cases refused

end Value

theorem Checked.inside_ne_nil {result : Checked β} (explained : result ≠ .error []) (place : Place) :
    result.inside place ≠ .error [] := by
  intro refused
  cases result with
  | ok value => cases refused
  | error issues =>
    have none : issues.map (Issue.inside place) = [] := Except.error.inj refused
    rw [List.map_eq_nil_iff.mp none] at explained
    exact explained rfl

theorem Checked.explains_collectFrom {γ : Type} {read : γ → Checked β}
    (explains : ∀ item, read item ≠ .error []) (index : Nat) (items : List γ) :
    collectFrom read index items ≠ .error [] := by
  induction items generalizing index with
  | nil => exact fun refused => nomatch refused
  | cons item items ih =>
    intro refused
    have first := inside_ne_nil (explains item) (.position index)
    rw [collectFrom] at refused
    split at refused
    · cases refused
    · rename_i issues _ given _
      cases refused
      exact first given
    · rename_i more _ given
      cases refused
      exact ih (index + 1) given
    · rename_i issues more given _
      rw [List.append_eq_nil_iff.mp (Except.error.inj refused) |>.1] at given
      exact first given

theorem Value.explains_readList {read : Value → Checked β} (explains : Explains read) :
    Explains (readList read) := by
  intro value refused
  unfold readList at refused
  split at refused
  · exact Checked.explains_collectFrom explains 0 _ refused
  · cases refused

namespace Slot

/-- A field that need not be given, and whose values are read apart from the record. -/
inductive Optional : Slot α → Prop where
  | of {β : Type} (name : String) {read : Value → Checked β} (explains : Explains read)
      (set : β → α → α) : Optional (.of name false read set)

variable {slot : Slot α}

theorem Optional.required (optional : slot.Optional) : slot.required = false := by
  cases optional
  rfl

theorem Optional.explains (optional : slot.Optional) (value : Value) (record : α) :
    slot.store value record ≠ .error [] := by
  cases optional with
  | @of β name read explains set =>
    intro refused
    change (read value).map (fun part => set part record) = .error [] at refused
    cases given : read value with
    | error issues =>
      rw [given] at refused
      cases refused
      exact explains value given
    | ok part =>
      rw [given] at refused
      cases refused

/-- Whatever the record, a field takes a value. -/
def Accepts (slot : Slot α) (value : Value) : Prop :=
  ∀ record, ∃ next, slot.store value record = .ok next

theorem Optional.accepts (optional : slot.Optional) {value : Value} {record next : α}
    (stored : slot.store value record = .ok next) : slot.Accepts value := by
  cases optional with
  | of name explains set =>
    obtain ⟨part, given, -⟩ := of_store stored
    exact fun other => ⟨set part other, store_of given name false set other⟩

end Slot

namespace Shape

variable {shape : Shape α} {values : String → Option Value} {entries : List (Value × Value)}
  {slots : List (Slot α)} {record last : α}

/-- The fields take the values that they are given, one by one, and a field that is given none stays
as it is. -/
inductive Takes (values : String → Option Value) : List (Slot α) → α → α → Prop where
  | nil {record : α} : Takes values [] record record
  | given {slot : Slot α} {slots : List (Slot α)} {value : Value} {record next last : α}
      (found : values slot.name = some value) (stored : slot.store value record = .ok next)
      (others : Takes values slots next last) : Takes values (slot :: slots) record last
  | absent {slot : Slot α} {slots : List (Slot α)} {record last : α}
      (missing : values slot.name = none) (others : Takes values slots record last) :
      Takes values (slot :: slots) record last

/-- Reads the value of a name, or takes the default if it has none. -/
def readOr (values : String → Option Value) (name : String) (default : β)
    (read : Value → Checked β) : Checked β :=
  match values name with
  | none => .ok default
  | some value => read value

section
variable {name : String} {read : Value → Checked β} {set : β → α → α} {default part : β}

theorem Takes.of_cons (taken : Takes values (.of name false read set :: slots) record last)
    (kept : set default record = record) : ∃ part, readOr values name default read = .ok part ∧
      Takes values slots (set part record) last := by
  cases taken with
  | @given _ _ value _ _ _ found stored others =>
    obtain ⟨part, given, rfl⟩ := Slot.of_store stored
    have named : values name = some value := found
    exact ⟨part, by rw [readOr, named]; exact given, others⟩
  | absent missing others =>
    have named : values name = none := missing
    exact ⟨default, by rw [readOr, named], kept.symm ▸ others⟩

theorem Takes.cons_of (given : readOr values name default read = .ok part)
    (kept : set default record = record) (others : Takes values slots (set part record) last) :
    Takes values (.of name false read set :: slots) record last := by
  rw [readOr] at given
  split at given
  · rename_i missing
    cases given
    exact .absent missing (kept ▸ others)
  · rename_i value found
    exact .given found (Slot.store_of given name false set record) others

end

section
variable {slot : Slot α} {draft : Draft α} {value : Value} {next : α} {issues : List Issue}

theorem fill_absent (optional : slot.Optional) (missing : Value.lookupText slot.name entries = none) :
    fill entries draft slot = draft := by
  rw [fill, missing]
  simp only [optional.required, Bool.false_eq_true, ↓reduceIte]

theorem fill_given (found : Value.lookupText slot.name entries = some value)
    (stored : slot.store value draft.record = .ok next) :
    fill entries draft slot = { draft with record := next } := by
  simp only [fill, found, stored, Checked.inside, Except.mapError]

theorem fill_refused (found : Value.lookupText slot.name entries = some value)
    (refused : slot.store value draft.record = .error issues) :
    fill entries draft slot =
      { draft with issues := draft.issues ++ issues.map (Issue.inside (.name slot.name)) } := by
  simp only [fill, found, refused, Checked.inside, Except.mapError]

end

-- No issue is ever dropped.
theorem issues_foldl_fill (slots : List (Slot α)) (entries : List (Value × Value)) (draft : Draft α) :
    draft.issues <+: (slots.foldl (fill entries) draft).issues := by
  induction slots generalizing draft with
  | nil => exact List.prefix_rfl
  | cons slot slots ih =>
    refine List.IsPrefix.trans ?_ (ih (fill entries draft slot))
    rw [fill]
    repeat' split
    all_goals first
      | exact List.prefix_rfl
      | exact List.prefix_append _ _

theorem foldl_fill_iff (optional : ∀ slot ∈ slots, slot.Optional) :
    slots.foldl (fill entries) ⟨record, []⟩ = ⟨last, []⟩ ↔
      Takes (Value.lookupText · entries) slots record last := by
  induction slots generalizing record with
  | nil =>
    constructor
    · rintro ⟨⟩
      exact .nil
    · rintro ⟨⟩
      rfl
  | cons slot slots ih =>
    obtain ⟨first, others⟩ := List.forall_mem_cons.mp optional
    rw [List.foldl_cons]
    cases found : Value.lookupText slot.name entries with
    | none =>
      rw [fill_absent first found, ih others]
      refine ⟨.absent found, fun taken => ?_⟩
      cases taken with
      | given given => exact nomatch found.symm.trans given
      | absent _ taken => exact taken
    | some value =>
      cases stored : slot.store value record with
      | ok next =>
        rw [fill_given found stored, ih others]
        refine ⟨.given found stored, fun taken => ?_⟩
        cases taken with
        | given given again taken =>
          cases found.symm.trans given
          cases stored.symm.trans again
          exact taken
        | absent missing => exact nomatch found.symm.trans missing
      | error issues =>
        -- A value that is refused leaves an issue, which stays to the end.
        constructor
        · intro same
          have kept := issues_foldl_fill slots entries (fill entries ⟨record, []⟩ slot)
          rw [same, fill_refused found stored, List.nil_append, List.prefix_nil,
            List.map_eq_nil_iff] at kept
          exact absurd (kept ▸ stored) (first.explains value record)
        · intro taken
          cases taken with
          | given given again =>
            cases found.symm.trans given
            cases stored.symm.trans again
          | absent missing => exact nomatch found.symm.trans missing

/-- A key is the name of a field. -/
def HasField (shape : Shape α) (key : Value) : Prop :=
  ∃ slot ∈ shape.slots, key = .text slot.name

theorem strayIssue?_eq_none_iff {key : Value} : shape.strayIssue? key = none ↔ shape.HasField key := by
  unfold strayIssue?
  split
  · rename_i name
    have named : shape.slots.any (·.name = name) = true ↔ shape.HasField (.text name) := by
      simp only [List.any_eq_true, decide_eq_true_eq, HasField, Value.text.injEq]
      exact exists_congr fun slot => and_congr_right fun _ => eq_comm
    rw [← named]
    split <;> simp_all
  · rename_i other
    simp only [reduceCtorEq, HasField, false_iff]
    rintro ⟨slot, -, rfl⟩
    exact other slot.name rfl

/-- Entries make a record exactly if all fields take what they are given, and no key is unknown. -/
theorem ofEntries_ok_iff (optional : ∀ slot ∈ shape.slots, slot.Optional) :
    shape.ofEntries entries = .ok record ↔
      (∀ entry ∈ entries, shape.HasField entry.1) ∧
        Takes (Value.lookupText · entries) shape.slots shape.blank record := by
  rw [← foldl_fill_iff optional]
  simp only [← strayIssue?_eq_none_iff]
  rw [← List.filterMap_eq_nil_iff (f := fun entry : Value × Value => shape.strayIssue? entry.1)]
  rw [ofEntries]
  rcases shape.slots.foldl (fill entries) ⟨shape.blank, []⟩ with ⟨final, issues⟩
  dsimp only
  rw [Draft.mk.injEq]
  constructor
  · intro built
    split at built
    · rename_i none
      obtain ⟨noIssues, noStrays⟩ := List.append_eq_nil_iff.mp (List.isEmpty_iff.mp none)
      exact ⟨noStrays, Except.ok.inj built, noIssues⟩
    · cases built
  · rintro ⟨noStrays, rfl, rfl⟩
    rw [noStrays]
    rfl

-- Some record takes the values exactly if each field takes its own.
theorem exists_takes_iff (record : α) (optional : ∀ slot ∈ slots, slot.Optional) :
    (∃ last, Takes values slots record last) ↔
      ∀ slot ∈ slots, ∀ value, values slot.name = some value → slot.Accepts value := by
  induction slots generalizing record with
  | nil =>
    constructor
    · intro _ slot member
      cases member
    · exact fun _ => ⟨record, .nil⟩
  | cons slot slots ih =>
    obtain ⟨first, others⟩ := List.forall_mem_cons.mp optional
    rw [List.forall_mem_cons]
    constructor
    · rintro ⟨last, taken⟩
      cases taken with
      | given found stored taken =>
        refine ⟨fun value given => ?_, (ih _ others).mp ⟨last, taken⟩⟩
        cases found.symm.trans given
        exact first.accepts stored
      | absent missing taken =>
        refine ⟨fun value given => ?_, (ih _ others).mp ⟨last, taken⟩⟩
        cases missing.symm.trans given
    · rintro ⟨own, rest⟩
      cases found : values slot.name with
      | none =>
        obtain ⟨last, taken⟩ := (ih _ others).mpr rest
        exact ⟨last, .absent found taken⟩
      | some value =>
        obtain ⟨next, stored⟩ := own value found record
        obtain ⟨last, taken⟩ := (ih _ others).mpr rest
        exact ⟨last, .given found stored taken⟩

end Shape

end PrismaNest
