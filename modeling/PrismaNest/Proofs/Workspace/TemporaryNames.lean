import Mathlib.Data.List.Nodup
import Mathlib.Data.List.Perm.Subperm
import PrismaNest.Proofs.Entries
import PrismaNest.Proofs.Files.Names
import PrismaNest.Workspace.Files

/-! Temporary names.

A tree has finitely many entries and a file has endlessly many temporary names, so one of them
is free. A file under that name is a new one, in whatever folder it lies.
-/

set_option autoImplicit false

namespace PrismaNest.Action

open Text

theorem toString_injective {first second : Nat} (same : toString first = toString second) :
    first = second := by
  have digits : Nat.toDigits 10 first = Nat.toDigits 10 second := by
    have spelled := congrArg String.toList same
    rwa [Nat.toString_eq_repr, Nat.toString_eq_repr, Nat.toList_repr, Nat.toList_repr] at spelled
  have read := congrArg (Nat.ofDigitChars 10 · 0) digits
  simpa [Nat.ofDigitChars_toDigits] using read

theorem temporaryName_injective (name : String) : Function.Injective (temporaryName name) := by
  intro first second same
  have numbers : (if first = 0 then "" else toString first) =
      if second = 0 then "" else toString second := by
    simpa [temporaryName, ← String.toList_inj] using same
  have written : ∀ number : Nat, toString number ≠ "" := by
    intro number
    simp [Nat.toString_eq_repr]
  split at numbers
  · rename_i zero
    split at numbers
    · rename_i other
      exact zero.trans other.symm
    · exact absurd numbers.symm (written second)
  · split at numbers
    · exact absurd numbers (written first)
    · exact toString_injective numbers

theorem length_temporaryName (name : String) (attempt : Nat) :
    2 < (temporaryName name attempt).length := by
  have fixed : ".RANDOM".length = 7 := by decide
  simp only [temporaryName, String.length_append]
  omega

theorem isName_temporaryName {name : String} (flat : Lacks '/' name) (attempt : Nat) :
    IsName (temporaryName name attempt) := by
  apply isName_of_length (length_temporaryName name attempt)
  have digits : Lacks '/' (if attempt = 0 then "" else toString attempt) := by
    split
    · decide
    · exact lacks_repr (by decide) attempt
  simp only [temporaryName, lacks_append]
  exact ⟨⟨⟨⟨by decide, flat⟩, by decide⟩, digits⟩, by decide⟩

theorem exists_free (tree : FileTree) (name : String) :
    ∃ attempt < tree.entries.length + 1, isNameInUse tree (temporaryName name attempt) = false := by
  by_contra none_free
  -- Otherwise each candidate is the last name of an entry, and they outnumber the entries.
  have taken : (List.range (tree.entries.length + 1)).map (temporaryName name) ⊆
      tree.entries.filterMap fun entry => entry.1.getLast? := by
    intro candidate member
    obtain ⟨attempt, listed, rfl⟩ := List.mem_map.mp member
    have used : isNameInUse tree (temporaryName name attempt) = true := by
      by_contra unused
      exact none_free ⟨attempt, List.mem_range.mp listed, Bool.eq_false_iff.mpr unused⟩
    rw [isNameInUse, List.any_eq_true] at used
    obtain ⟨entry, inside, last⟩ := used
    exact List.mem_filterMap.mpr ⟨entry, inside, by simpa using last⟩
  have distinct : ((List.range (tree.entries.length + 1)).map (temporaryName name)).Nodup :=
    List.nodup_range.map (temporaryName_injective name)
  have fits := (List.subperm_of_subset distinct taken).length_le
  have bounded := List.length_filterMap_le (fun entry : Location × Entry => entry.1.getLast?)
    tree.entries
  rw [List.length_map, List.length_range] at fits
  omega

-- Among one more name than there are entries, the free name is one that nothing has.
theorem freeName_spec (tree : FileTree) (name : String) :
    isNameInUse tree (freeName tree name) = false ∧
      ∃ attempt, freeName tree name = temporaryName name attempt := by
  obtain ⟨attempt, small, free⟩ := exists_free tree name
  have found : (((List.range (tree.entries.length + 1)).map (temporaryName name)).find?
      fun candidate => !isNameInUse tree candidate).isSome = true :=
    List.find?_isSome.mpr ⟨_, List.mem_map_of_mem (List.mem_range.mpr small), by rw [free]; rfl⟩
  obtain ⟨chosen, first⟩ := Option.isSome_iff_exists.mp found
  rw [freeName, first, Option.getD_some]
  refine ⟨by simpa using List.find?_some first, ?_⟩
  obtain ⟨attempt, -, rfl⟩ := List.mem_map.mp (List.mem_of_find?_eq_some first)
  exact ⟨attempt, rfl⟩

theorem isName_freeName (tree : FileTree) {name : String} (flat : Lacks '/' name) :
    IsName (freeName tree name) := by
  obtain ⟨-, attempt, same⟩ := freeName_spec tree name
  rw [same]
  exact isName_temporaryName flat attempt

theorem isNameInUse_of_lookUp? {tree : FileTree} {folder : Location} {name : String}
    (there : (tree.lookUp? (folder ++ [name])).isSome = true) : isNameInUse tree name = true := by
  obtain ⟨entry, found⟩ := Option.isSome_iff_exists.mp there
  rw [FileTree.lookUp?, if_neg (by simp)] at found
  rw [isNameInUse, List.any_eq_true]
  exact ⟨(folder ++ [name], entry), mem_of_lookup_eq_some found, by simp⟩

theorem lookUp?_freeName (tree : FileTree) (folder : Location) (name : String) :
    tree.lookUp? (folder ++ [freeName tree name]) = none := by
  by_contra there
  have used := isNameInUse_of_lookUp? (Option.isSome_iff_ne_none.mpr there)
  rw [(freeName_spec tree name).1] at used
  cases used

end PrismaNest.Action
