/-! Gathering: one result for each element that gives one, in order. -/

set_option autoImplicit false

namespace PrismaNest

variable {α β : Type}

/-- The second list holds a result of each element of the first that has results, in order,
and nothing else. -/
inductive Gathers (gives : α → β → Prop) : List α → List β → Prop where
  | nil : Gathers gives [] []
  | take {element : α} {result : β} {elements : List α} {results : List β} :
      gives element result → Gathers gives elements results →
      Gathers gives (element :: elements) (result :: results)
  | skip {element : α} {elements : List α} {results : List β} :
      (∀ result, ¬ gives element result) → Gathers gives elements results →
      Gathers gives (element :: elements) results

theorem gathers_filterMap {gives : α → β → Prop} {f : α → Option β}
    (sound : ∀ element result, f element = some result → gives element result)
    (complete : ∀ element result, gives element result → f element ≠ none) (elements : List α) :
    Gathers gives elements (elements.filterMap f) := by
  induction elements with
  | nil => exact .nil
  | cons element elements ih =>
    cases given : f element with
    | none =>
      rw [List.filterMap_cons_none given]
      exact .skip (fun result gives => complete element result gives given) ih
    | some result =>
      rw [List.filterMap_cons_some given]
      exact .take (sound element result given) ih

theorem Gathers.none_of_nil {gives : α → β → Prop} {elements : List α}
    (gathers : Gathers gives elements []) : ∀ element ∈ elements, ∀ result, ¬ gives element result := by
  induction elements with
  | nil => simp
  | cons first elements ih =>
    cases gathers with
    | skip nothing rest => exact List.forall_mem_cons.mpr ⟨nothing, ih rest⟩

end PrismaNest
