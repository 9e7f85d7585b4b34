import PrismaNest.Proofs.Text.Absence
import PrismaNest.Proofs.Text.Runs

/-! Lists in a text.

The entries of a list stand between commas. A comma within parentheses belongs to an entry, so the
open parentheses are counted on the way. Entries that leave none open are read as they were written.
-/

set_option autoImplicit false

namespace PrismaNest.Text

/-- The number of open parentheses behind a character. -/
def depthBehind (depth : Nat) (c : Char) : Nat :=
  if c = '(' then depth + 1 else if c = ')' then depth - 1 else depth

/-- The parts of a text between its commas, except for those within parentheses. -/
def partsOf (depth : Nat) : List Char → List (List Char)
  | [] => [[]]
  | c :: rest =>
    if c = ',' ∧ depth = 0 then [] :: partsOf 0 rest
    else (partsOf (depthBehind depth c) rest).modifyHead (c :: ·)

/-- The entries of a list, without the spaces in front of each. -/
def entriesOf (text : List Char) : List (List Char) :=
  if text.isEmpty then [] else (partsOf 0 text).map (·.dropWhile (· = ' '))

/-- The number of open parentheses behind a text, if all of its commas are within parentheses. -/
def depthAfter? (depth : Nat) : List Char → Option Nat
  | [] => some depth
  | c :: rest => if c = ',' ∧ depth = 0 then none else depthAfter? (depthBehind depth c) rest

theorem depthAfter?_append (depth : Nat) (text rest : List Char) :
    depthAfter? depth (text ++ rest) = (depthAfter? depth text).bind (depthAfter? · rest) := by
  induction text generalizing depth with
  | nil => rfl
  | cons c text ih =>
    rw [List.cons_append, depthAfter?, depthAfter?]
    split
    · rfl
    · exact ih _

theorem depthAfter?_of_lacks {text : String} (comma : Lacks ',' text) (opening : Lacks '(' text)
    (closing : Lacks ')' text) (depth : Nat) : depthAfter? depth text.toList = some depth := by
  unfold Lacks at comma opening closing
  generalize text.toList = chars at comma opening closing
  induction chars with
  | nil => rfl
  | cons c chars ih =>
    simp only [List.mem_cons, not_or] at comma opening closing
    have same : depthBehind depth c = depth := by
      rw [depthBehind, if_neg (Ne.symm opening.1), if_neg (Ne.symm closing.1)]
    rw [depthAfter?, if_neg fun both => comma.1 both.1.symm, same]
    exact ih comma.2 opening.2 closing.2

theorem partsOf_append {depth after : Nat} {text : List Char} (inside : depthAfter? depth text = some after)
    (rest : List Char) : partsOf depth (text ++ rest) = (partsOf after rest).modifyHead (text ++ ·) := by
  induction text generalizing depth with
  | nil =>
    cases inside
    rw [List.nil_append]
    cases partsOf after rest <;> rfl
  | cons c text ih =>
    rw [depthAfter?] at inside
    split at inside
    · cases inside
    · rename_i within
      rw [List.cons_append, partsOf, if_neg within, ih inside, List.modifyHead_modifyHead]
      rfl

/-- A text that is read as one entry of a list. -/
structure IsEntry (text : List Char) : Prop where
  nonempty : text ≠ []
  flush : StartsOutside (fun c => decide (c = ' ')) text
  closed : depthAfter? 0 text = some 0

theorem map_dropWhile_partsOf_intercalate {entries : List String} (all : ∀ entry ∈ entries, IsEntry entry.toList)
    (nonempty : entries ≠ []) :
    (partsOf 0 (String.intercalate ", " entries).toList).map (·.dropWhile (· = ' ')) =
      entries.map String.toList := by
  induction entries with
  | nil => exact absurd rfl nonempty
  | cons first entries ih =>
    obtain ⟨isEntry, others⟩ := List.forall_mem_cons.mp all
    cases entries with
    | nil =>
      have parts : partsOf 0 first.toList = [first.toList] := by
        have behind := partsOf_append isEntry.closed []
        rw [List.append_nil] at behind
        simpa [partsOf] using behind
      rw [String.intercalate_singleton, parts, List.map_singleton, List.map_singleton,
        dropWhile_of_startsOutside isEntry.flush]
    | cons second entries =>
      have written : (String.intercalate ", " (first :: second :: entries)).toList =
          first.toList ++ ',' :: ' ' :: (String.intercalate ", " (second :: entries)).toList := by
        simp [String.intercalate_cons_cons]
      have comma (rest : List Char) : partsOf 0 (',' :: ' ' :: rest) =
          [] :: (partsOf 0 rest).modifyHead (' ' :: ·) := rfl
      -- The space behind a comma is dropped with those in front of the entry.
      have spaced (parts : List (List Char)) : (parts.modifyHead (' ' :: ·)).map (·.dropWhile (· = ' ')) =
          parts.map (·.dropWhile (· = ' ')) := by
        cases parts <;> rfl
      rw [written, partsOf_append isEntry.closed, comma, List.modifyHead_cons, List.append_nil,
        List.map_cons, spaced, ih others (List.cons_ne_nil _ _), dropWhile_of_startsOutside isEntry.flush]
      rfl

/-- A list is read as the entries that it was written for. -/
theorem entriesOf_intercalate {entries : List String} (all : ∀ entry ∈ entries, IsEntry entry.toList) :
    entriesOf (String.intercalate ", " entries).toList = entries.map String.toList := by
  cases entries with
  | nil => rfl
  | cons first entries =>
    have written : (String.intercalate ", " (first :: entries)).toList.isEmpty = false := by
      have nonempty := (all first List.mem_cons_self).nonempty
      cases entries with
      | nil => simpa [String.intercalate_singleton] using nonempty
      | cons second entries => simp [String.intercalate_cons_cons]
    rw [entriesOf, written, if_neg Bool.false_ne_true]
    exact map_dropWhile_partsOf_intercalate all (List.cons_ne_nil _ _)

end PrismaNest.Text
