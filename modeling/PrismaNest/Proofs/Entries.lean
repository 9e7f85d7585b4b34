import Mathlib.Data.List.Induction
import Mathlib.Data.List.Nodup
import PrismaNest.Entries

/-! Laws of entries by key.

Putting entries keeps every key single, gives each key put the value that comes last, and
leaves all other keys alone. Elements that are given again add nothing to a list without
repetitions.
-/

set_option autoImplicit false

namespace PrismaNest

variable {κ β : Type}

theorem lookup_eq_some_of_mem [BEq κ] [LawfulBEq κ] {entries : List (κ × β)} (single : (entries.map Prod.fst).Nodup)
    {key : κ} {value : β} (member : (key, value) ∈ entries) : entries.lookup key = some value := by
  induction entries with
  | nil => cases member
  | cons entry entries ih =>
    rw [List.map_cons, List.nodup_cons] at single
    rcases List.mem_cons.mp member with rfl | member
    · exact List.lookup_cons_self
    · have other : key ≠ entry.1 := by
        rintro rfl
        exact single.1 (List.mem_map.mpr ⟨_, member, rfl⟩)
      rw [List.lookup_cons, beq_false_of_ne other]
      exact ih single.2 member

theorem mem_of_lookup_eq_some [BEq κ] [LawfulBEq κ] {entries : List (κ × β)} {key : κ} {value : β}
    (found : entries.lookup key = some value) : (key, value) ∈ entries := by
  obtain ⟨earlier, later, split, -⟩ := List.lookup_eq_some_iff.mp found
  rw [split]
  exact List.mem_append_right earlier List.mem_cons_self

variable [DecidableEq κ]

theorem nodup_putEntry {entries : List (κ × β)} (single : (entries.map Prod.fst).Nodup)
    (key : κ) (value : β) : ((putEntry key value entries).map Prod.fst).Nodup := by
  rw [map_fst_putEntry]
  split
  · exact single
  · rename_i fresh
    exact single.append (List.nodup_singleton key) (by simpa using fresh)

theorem nodup_putEntries {entries : List (κ × β)} (single : (entries.map Prod.fst).Nodup)
    (added : List (κ × β)) : ((putEntries entries added).map Prod.fst).Nodup := by
  induction added generalizing entries with
  | nil => exact single
  | cons entry added ih => exact ih (nodup_putEntry single entry.1 entry.2)

-- Putting keys that are there already keeps the keys as they are.
theorem map_fst_putEntries_of_subset {entries added : List (κ × β)}
    (present : ∀ entry ∈ added, entry.1 ∈ entries.map Prod.fst) :
    (putEntries entries added).map Prod.fst = entries.map Prod.fst := by
  induction added generalizing entries with
  | nil => rfl
  | cons entry added ih =>
    have kept : (putEntry entry.1 entry.2 entries).map Prod.fst = entries.map Prod.fst := by
      rw [map_fst_putEntry, if_pos (present entry List.mem_cons_self)]
    refine (ih fun later member => ?_).trans kept
    rw [kept]
    exact present later (List.mem_cons_of_mem entry member)

theorem putEntry_of_fresh {key : κ} {entries : List (κ × β)} (fresh : key ∉ entries.map Prod.fst)
    (value : β) : putEntry key value entries = entries ++ [(key, value)] := by
  induction entries with
  | nil => rfl
  | cons entry entries ih =>
    rw [List.map_cons, List.mem_cons, not_or] at fresh
    rw [putEntry, if_neg (Ne.symm fresh.1), ih fresh.2, List.cons_append]

-- New keys come behind the others, in the order in which they are put.
theorem putEntries_of_fresh {entries added : List (κ × β)} (single : (added.map Prod.fst).Nodup)
    (fresh : ∀ entry ∈ added, entry.1 ∉ entries.map Prod.fst) :
    putEntries entries added = entries ++ added := by
  induction added generalizing entries with
  | nil => exact (List.append_nil _).symm
  | cons entry added ih =>
    rw [List.map_cons, List.nodup_cons] at single
    have later : ∀ other ∈ added, other.1 ∉ (entries ++ [entry]).map Prod.fst := by
      intro other member
      rw [List.map_append, List.mem_append, List.map_singleton, List.mem_singleton, not_or]
      refine ⟨fresh other (List.mem_cons_of_mem entry member), fun same => ?_⟩
      exact single.1 (same ▸ List.mem_map_of_mem member)
    have first : putEntries entries (entry :: added) = putEntries (entries ++ [entry]) added := by
      rw [← putEntry_of_fresh (fresh entry List.mem_cons_self)]
      rfl
    rw [first, ih single.2 later, List.append_assoc, List.singleton_append]

theorem map_fst_putEntries_of_fresh {entries added : List (κ × β)}
    (single : (added.map Prod.fst).Nodup)
    (fresh : ∀ entry ∈ added, entry.1 ∉ entries.map Prod.fst) :
    (putEntries entries added).map Prod.fst = entries.map Prod.fst ++ added.map Prod.fst := by
  rw [putEntries_of_fresh single fresh, List.map_append]

theorem mem_putEntry {key : κ} {value : β} {entries : List (κ × β)} {entry : κ × β}
    (member : entry ∈ putEntry key value entries) : entry = (key, value) ∨ entry ∈ entries := by
  induction entries with
  | nil => exact .inl (List.mem_singleton.mp member)
  | cons first entries ih =>
    obtain ⟨existing, old⟩ := first
    rw [putEntry] at member
    split at member
    · rename_i same
      subst same
      rcases List.mem_cons.mp member with rfl | member
      · exact .inl rfl
      · exact .inr (List.mem_cons_of_mem _ member)
    · rcases List.mem_cons.mp member with rfl | member
      · exact .inr List.mem_cons_self
      · exact (ih member).imp_right (List.mem_cons_of_mem _)

-- Taking away a key that came last gives the entries back.
theorem filter_putEntry_of_fresh {key : κ} {entries : List (κ × β)}
    (fresh : ∀ entry ∈ entries, entry.1 ≠ key) (value : β) :
    (putEntry key value entries).filter (fun entry => entry.1 ≠ key) = entries := by
  induction entries with
  | nil => simp [putEntry]
  | cons entry entries ih =>
    obtain ⟨other, later⟩ := List.forall_mem_cons.mp fresh
    rw [putEntry, if_neg other, List.filter_cons_of_pos (by simpa using other), ih later]

-- Taking out keys of some kind before entries are put or afterwards is the same.
theorem filter_putEntry (p : κ → Bool) (key : κ) (value : β) (entries : List (κ × β)) :
    (putEntry key value entries).filter (fun entry => p entry.1) =
      if p key then putEntry key value (entries.filter fun entry => p entry.1)
      else entries.filter fun entry => p entry.1 := by
  induction entries with
  | nil => cases kept : p key <;> simp [putEntry, kept]
  | cons entry entries ih =>
    obtain ⟨existing, old⟩ := entry
    by_cases same : existing = key
    · subst same
      cases kept : p existing <;> simp [putEntry, kept]
    · cases kept : p existing <;> cases keyKept : p key <;>
        simp [putEntry, same, kept, keyKept, ih]

theorem filter_putEntries (p : κ → Bool) (entries added : List (κ × β)) :
    (putEntries entries added).filter (fun entry => p entry.1) =
      putEntries (entries.filter fun entry => p entry.1) (added.filter fun entry => p entry.1) := by
  induction added generalizing entries with
  | nil => rfl
  | cons entry added ih =>
    have first : putEntries entries (entry :: added) =
        putEntries (putEntry entry.1 entry.2 entries) added := rfl
    rw [first, ih, filter_putEntry, List.filter_cons]
    split <;> rfl

theorem putEntries_append (entries added further : List (κ × β)) :
    putEntries entries (added ++ further) = putEntries (putEntries entries added) further :=
  List.foldl_append

-- Nothing but what was put is among the entries.
theorem mem_putEntries {entries added : List (κ × β)} {entry : κ × β}
    (member : entry ∈ putEntries entries added) : entry ∈ added ∨ entry ∈ entries := by
  induction added generalizing entries with
  | nil => exact .inr member
  | cons first added ih =>
    rcases ih member with later | before
    · exact .inl (List.mem_cons_of_mem _ later)
    · rcases mem_putEntry before with rfl | old
      · exact .inl List.mem_cons_self
      · exact .inr old

section
variable [BEq κ] [LawfulBEq κ]

theorem lookup_putEntries_of_not_mem {added : List (κ × β)} {key : κ}
    (absent : key ∉ added.map Prod.fst) (entries : List (κ × β)) :
    (putEntries entries added).lookup key = entries.lookup key := by
  induction added generalizing entries with
  | nil => rfl
  | cons entry added ih =>
    rw [List.map_cons, List.mem_cons, not_or] at absent
    have step := ih absent.2 (putEntry entry.1 entry.2 entries)
    rw [lookup_putEntry, if_neg absent.1] at step
    exact step

theorem lookup_putEntries_of_mem {added : List (κ × β)} (single : (added.map Prod.fst).Nodup)
    {key : κ} {value : β} (member : (key, value) ∈ added) (entries : List (κ × β)) :
    (putEntries entries added).lookup key = some value := by
  induction added generalizing entries with
  | nil => cases member
  | cons entry added ih =>
    rw [List.map_cons, List.nodup_cons] at single
    rcases List.mem_cons.mp member with rfl | member
    · have step := lookup_putEntries_of_not_mem single.1 (putEntry key value entries)
      rw [lookup_putEntry, if_pos rfl] at step
      exact step
    · exact ih single.2 member _

end

-- A key that was put has one of the values that it was put with.
theorem exists_mem_putEntries {added : List (κ × β)} {key : κ} (present : key ∈ added.map Prod.fst)
    (entries : List (κ × β)) : ∃ value, (key, value) ∈ added ∧ (key, value) ∈ putEntries entries added := by
  induction added generalizing entries with
  | nil => cases present
  | cons entry added ih =>
    by_cases later : key ∈ added.map Prod.fst
    · obtain ⟨value, given, kept⟩ := ih later (putEntry entry.1 entry.2 entries)
      exact ⟨value, List.mem_cons_of_mem _ given, kept⟩
    · obtain rfl : key = entry.1 := (List.mem_cons.mp present).resolve_right later
      refine ⟨entry.2, List.mem_cons_self, mem_of_lookup_eq_some ?_⟩
      have kept := lookup_putEntries_of_not_mem later (putEntry entry.1 entry.2 entries)
      rw [lookup_putEntry, if_pos rfl] at kept
      exact kept

theorem eq_singleton_of_forall {α : Type} {elements : List α} {element : α} (single : elements.Nodup)
    (nonempty : elements ≠ []) (same : ∀ other ∈ elements, other = element) : elements = [element] := by
  obtain ⟨first, others, rfl⟩ := List.exists_cons_of_ne_nil nonempty
  obtain rfl := same first List.mem_cons_self
  have none : others = [] := List.eq_nil_iff_forall_not_mem.mpr fun other member =>
    (List.nodup_cons.mp single).1 (same other (List.mem_cons_of_mem _ member) ▸ member)
  rw [none]

section
variable {α : Type} [BEq α] [LawfulBEq α]

theorem nodup_eraseDups (elements : List α) : elements.eraseDups.Nodup := by
  induction elements using List.reverseRecOn with
  | nil => exact List.nodup_nil
  | append_singleton elements element ih =>
    rw [List.eraseDups_append]
    by_cases known : element ∈ elements
    · simpa [List.removeAll, known] using ih
    · have fresh : ([element].removeAll elements).eraseDups = [element] := by
        simp [List.removeAll, known, List.eraseDups_cons]
      rw [fresh]
      exact ih.append (List.nodup_singleton element) (by simpa using known)

theorem eraseDups_eq_self {elements : List α} (single : elements.Nodup) :
    elements.eraseDups = elements := by
  induction elements with
  | nil => rfl
  | cons element elements ih =>
    obtain ⟨fresh, others⟩ := List.nodup_cons.mp single
    have kept : elements.filter (fun other => !other == element) = elements := by
      rw [List.filter_eq_self]
      intro other member
      simpa using fun same : other = element => fresh (same ▸ member)
    rw [List.eraseDups_cons, kept, ih others]

end

end PrismaNest
