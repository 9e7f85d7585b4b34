/-! Entries by key, in the order in which the keys first came.

A key that is put again keeps its place and takes the new value.
-/

set_option autoImplicit false

namespace PrismaNest

variable {κ β : Type}

/-- Replaces the value of a key in its place, or adds the key at the end. -/
def putEntry [DecidableEq κ] (key : κ) (value : β) : List (κ × β) → List (κ × β)
  | [] => [(key, value)]
  | (existing, old) :: rest =>
    if existing = key then (existing, value) :: rest
    else (existing, old) :: putEntry key value rest

def putEntries [DecidableEq κ] (entries added : List (κ × β)) : List (κ × β) :=
  added.foldl (fun current entry => putEntry entry.1 entry.2 current) entries

theorem map_fst_putEntry [DecidableEq κ] (key : κ) (value : β) (entries : List (κ × β)) :
    (putEntry key value entries).map Prod.fst =
      if key ∈ entries.map Prod.fst then entries.map Prod.fst
      else entries.map Prod.fst ++ [key] := by
  induction entries with
  | nil => simp [putEntry]
  | cons entry rest ih =>
    obtain ⟨existing, old⟩ := entry
    by_cases same : existing = key
    · simp [putEntry, same]
    · have other : key ≠ existing := fun equal => same equal.symm
      simp only [putEntry, same, ↓reduceIte, List.map_cons, ih, List.mem_cons, other, false_or]
      split <;> simp

theorem lookup_putEntry [DecidableEq κ] [BEq κ] [LawfulBEq κ] (key asked : κ) (value : β)
    (entries : List (κ × β)) :
    (putEntry key value entries).lookup asked =
      if asked = key then some value else entries.lookup asked := by
  induction entries with
  | nil =>
    by_cases same : asked = key
    · simp [putEntry, same]
    · simp [putEntry, same]
  | cons entry rest ih =>
    obtain ⟨existing, old⟩ := entry
    by_cases same : existing = key
    · subst same
      by_cases found : asked = existing
      · simp [putEntry, found]
      · simp [putEntry, List.lookup_cons, found, beq_false_of_ne found]
    · by_cases found : asked = existing
      · subst found
        simp [putEntry, same]
      · simp [putEntry, same, List.lookup_cons, ih, beq_false_of_ne found]

end PrismaNest
