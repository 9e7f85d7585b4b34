import PrismaNest.Proofs.Validation.Records
import PrismaNest.Settings.File

/-! Overrides over entries.

An override that is not null gives the value of its key, and of several the last one does. Everything
else is as it was among the entries: a null override hides nothing, and a value that is overridden is
gone.
-/

set_option autoImplicit false

namespace PrismaNest

namespace Value

variable {name : String} {key value : Value} {entries : List (Value × Value)}

theorem sameKey_text_iff : key.sameKey (.text name) = true ↔ key = .text name := by
  cases key <;> simp [sameKey, keyNumber?]

theorem text_sameKey_iff : (text name).sameKey key = true ↔ key = .text name := by
  cases key <;> simp [sameKey, keyNumber?, eq_comm]

theorem lookupText_append (name : String) (first second : List (Value × Value)) :
    lookupText name (first ++ second) = (lookupText name first).or (lookupText name second) := by
  rw [lookupText, List.find?_append, Option.map_or]
  rfl

theorem lookupText_nil (name : String) : lookupText name [] = none :=
  rfl

theorem lookupText_cons (name : String) (entry : Value × Value) (entries : List (Value × Value)) :
    lookupText name (entry :: entries) =
      if entry.1.sameKey (.text name) then some entry.2 else lookupText name entries := by
  rw [lookupText, List.find?_cons]
  split
  · rename_i same
    rw [if_pos same]
    rfl
  · rename_i other
    rw [if_neg (by simp [other])]
    rfl

-- Keys that are put for each other are the same text, or none of them is a text.
theorem sameKey_text_congr {first second : Value} (same : first.sameKey second = true) :
    first.sameKey (.text name) = second.sameKey (.text name) := by
  rw [Bool.eq_iff_iff, sameKey_text_iff, sameKey_text_iff]
  constructor
  · rintro rfl
    exact text_sameKey_iff.mp same
  · rintro rfl
    exact sameKey_text_iff.mp same

theorem lookupText_putKey (name : String) (key value : Value) (entries : List (Value × Value)) :
    lookupText name (putKey key value entries) =
      (lookupText name [(key, value)]).or (lookupText name entries) := by
  induction entries with
  | nil => exact (Option.or_none).symm
  | cons entry entries ih =>
    obtain ⟨existing, old⟩ := entry
    rw [putKey]
    split
    · rename_i same
      simp only [lookupText_cons, lookupText_nil, sameKey_text_congr same]
      split <;> rfl
    · rename_i other
      simp only [lookupText_cons, lookupText_nil, ih]
      by_cases asked : existing.sameKey (.text name) = true
      · have apart : ¬ key.sameKey (.text name) = true := by
          intro own
          rw [sameKey_text_iff] at asked own
          exact other (by rw [asked, own, sameKey_text]; exact decide_eq_true rfl)
        rw [if_pos asked, if_pos asked, if_neg apart]
        rfl
      · rw [if_neg asked, if_neg asked]

theorem forall_putKey_iff {property : Value → Prop}
    (same : ∀ first second, first.sameKey second = true → (property first ↔ property second)) :
    (∀ entry ∈ putKey key value entries, property entry.1) ↔
      property key ∧ ∀ entry ∈ entries, property entry.1 := by
  induction entries with
  | nil => simp [putKey]
  | cons entry entries ih =>
    obtain ⟨existing, old⟩ := entry
    rw [putKey]
    split
    · rename_i equal
      have alike := same existing key equal
      simp [alike]
    · rw [List.forall_mem_cons, ih, List.forall_mem_cons]
      exact and_left_comm

end Value

/-- The overrides that count: all but those that are null. -/
def effective (overrides : SettingsEntries) : SettingsEntries :=
  overrides.filter fun entry => match entry.2 with
    | .null => false
    | _ => true

/-- The value of a setting: the one of the last override that counts, or else the one in a file. -/
def winning? (entries overrides : SettingsEntries) (name : String) : Option Value :=
  (Value.lookupText name (effective overrides).reverse).or (Value.lookupText name entries)

variable {entries overrides : SettingsEntries}

theorem mem_effective {entry : Value × Value} :
    entry ∈ effective overrides ↔ entry ∈ overrides ∧ entry.2 ≠ .null := by
  rw [effective, List.mem_filter]
  refine and_congr_right fun _ => ?_
  cases entry.2 <;> simp

theorem mergeOverrides_eq (entries overrides : SettingsEntries) :
    mergeOverrides entries overrides =
      (effective overrides).foldl
        (fun current entry => Value.putKey entry.1 entry.2 current) entries := by
  rw [mergeOverrides, effective, List.foldl_filter]
  congr 1
  funext current entry
  cases entry.2 <;> rfl

theorem lookupText_mergeOverrides (entries overrides : SettingsEntries) (name : String) :
    Value.lookupText name (mergeOverrides entries overrides) = winning? entries overrides name := by
  rw [mergeOverrides_eq, winning?]
  induction effective overrides generalizing entries with
  | nil => rfl
  | cons entry later ih =>
    rw [List.foldl_cons, ih, List.reverse_cons, Value.lookupText_append, Value.lookupText_putKey,
      Option.or_assoc]

theorem forall_mergeOverrides_iff {property : Value → Prop}
    (same : ∀ first second : Value, first.sameKey second = true → (property first ↔ property second)) :
    (∀ entry ∈ mergeOverrides entries overrides, property entry.1) ↔
      (∀ entry ∈ entries, property entry.1) ∧
        ∀ entry ∈ overrides, entry.2 ≠ .null → property entry.1 := by
  have counted : (∀ entry ∈ overrides, entry.2 ≠ .null → property entry.1) ↔
      ∀ entry ∈ effective overrides, property entry.1 := by
    simp only [mem_effective, and_imp]
  rw [mergeOverrides_eq, counted]
  induction effective overrides generalizing entries with
  | nil => simp
  | cons entry later ih =>
    rw [List.foldl_cons, List.forall_mem_cons]
    refine ih.trans ?_
    rw [Value.forall_putKey_iff same]
    exact and_assoc.trans and_left_comm

end PrismaNest
