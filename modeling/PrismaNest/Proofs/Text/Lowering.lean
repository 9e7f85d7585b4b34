import Mathlib.Data.List.Basic
import PrismaNest.Text.LowerCase
import PrismaNest.Text.WordChar

/-! Lower case of words.

The lower case of a word has word characters and characters beyond ASCII only, so it holds
none of the signs by which paths, quoted texts and lines are divided.
-/

set_option autoImplicit false

namespace PrismaNest.Text

/-- A word character, or any character beyond ASCII. -/
def isLabelChar (c : Char) : Bool :=
  isWordChar c || 0x80 ≤ c.toNat

theorem isLabelChar_of_isWordChar {c : Char} (word : isWordChar c = true) : isLabelChar c = true := by
  simp [isLabelChar, word]

theorem exists_run_of_caseShift? {runs : List CaseRun} {code : Nat} {shift : Int}
    (found : caseShift? runs code = some shift) :
    ∃ run ∈ runs, run.contains code = true ∧ run.shift = shift := by
  induction runs with
  | nil => cases found
  | cons run runs ih =>
    rw [caseShift?] at found
    split at found
    · cases found
    · split at found
      · rename_i inside
        cases found
        exact ⟨run, List.mem_cons_self, inside, rfl⟩
      · obtain ⟨later, member, inside⟩ := ih found
        exact ⟨later, List.mem_cons_of_mem run member, inside⟩

/-- The code points that small letters have: the ASCII letters, and beyond ASCII. -/
def IsSmallCode (low high : Int) : Prop :=
  (0x61 ≤ low ∧ high ≤ 0x7A) ∨ (0x80 ≤ low ∧ (high < 0xD800 ∨ 0xDFFF < low ∧ high < 0x110000))

instance (low high : Int) : Decidable (IsSmallCode low high) :=
  inferInstanceAs (Decidable (_ ∨ _))

theorem isSmallCode_of_mem_caseRuns :
    ∀ run ∈ caseRuns, IsSmallCode (run.first + run.shift) (run.last + run.shift) := by
  decide +kernel

theorem toNat_ofNat_of_isValidChar {code : Nat} (scalar : code.isValidChar) :
    (Char.ofNat code).toNat = code :=
  congrArg Char.toNat (dif_pos scalar)

theorem isLabelChar_ofNat {code : Nat} (small : IsSmallCode code code) :
    isLabelChar (Char.ofNat code) = true := by
  rcases small with ⟨low, high⟩ | ⟨low, valid⟩
  · have letters : ∀ letter ∈ List.range' 0x61 26, isLabelChar (Char.ofNat letter) = true := by
      decide +kernel
    apply letters
    rw [List.mem_range'_1]
    omega
  · have scalar : code.isValidChar := by
      unfold Nat.isValidChar
      omega
    simp only [isLabelChar, toNat_ofNat_of_isValidChar scalar, Bool.or_eq_true, decide_eq_true_eq]
    exact .inr (by omega)

theorem isLabelChar_lowerLetter {c : Char} (label : isLabelChar c = true) :
    isLabelChar (lowerLetter c) = true := by
  unfold lowerLetter
  split
  · rename_i shift found
    obtain ⟨run, member, inside, rfl⟩ := exists_run_of_caseShift? found
    simp only [CaseRun.contains, Bool.and_eq_true, decide_eq_true_eq] at inside
    obtain ⟨⟨first, last⟩, -⟩ := inside
    have small := isSmallCode_of_mem_caseRuns run member
    apply isLabelChar_ofNat
    unfold IsSmallCode at small ⊢
    omega
  · exact label

theorem isLabelChar_of_mem_lowerChar {before after : List Char} {c d : Char}
    (label : isLabelChar c = true) (member : d ∈ lowerChar before c after) : isLabelChar d = true := by
  unfold lowerChar at member
  split at member
  · rw [List.mem_singleton] at member
    subst member
    split
    · decide
    · decide
  · split at member
    · have both : ∀ e ∈ ['i', '\u0307'], isLabelChar e = true :=
        List.all_eq_true.mp (by decide)
      exact both d member
    · rw [List.mem_singleton] at member
      subst member
      exact isLabelChar_lowerLetter label

theorem isLabelChar_of_mem_lowerFrom {before text : List Char}
    (label : ∀ c ∈ text, isLabelChar c = true) : ∀ d ∈ lowerFrom before text, isLabelChar d = true := by
  induction text generalizing before with
  | nil => exact fun d member => nomatch member
  | cons c text ih =>
    intro d member
    rw [lowerFrom, List.mem_append] at member
    rcases member with member | member
    · exact isLabelChar_of_mem_lowerChar (label c List.mem_cons_self) member
    · exact ih (fun e inside => label e (List.mem_cons_of_mem c inside)) d member

theorem isLabelChar_of_mem_lower {text : String} (word : ∀ c ∈ text.toList, isWordChar c = true) :
    ∀ d ∈ (lower text).toList, isLabelChar d = true := by
  rw [lower, String.toList_ofList]
  exact isLabelChar_of_mem_lowerFrom fun c member => isLabelChar_of_isWordChar (word c member)

theorem length_lowerChar_le (before : List Char) (c : Char) (after : List Char) :
    (lowerChar before c after).length ≤ 2 := by
  unfold lowerChar
  split
  · exact Nat.le_succ 1
  · split
    · exact Nat.le_refl 2
    · exact Nat.le_succ 1

theorem lowerChar_ne_nil (before : List Char) (c : Char) (after : List Char) :
    lowerChar before c after ≠ [] := by
  unfold lowerChar
  split
  · exact List.cons_ne_nil _ _
  · split
    · exact List.cons_ne_nil _ _
    · exact List.cons_ne_nil _ _

theorem lower_ne_empty {text : String} (named : text ≠ "") : lower text ≠ "" := by
  obtain ⟨c, rest, spelled⟩ := List.exists_cons_of_ne_nil (mt String.toList_eq_nil_iff.mp named)
  intro empty
  rw [lower, spelled, lowerFrom, String.ofList_eq_empty_iff, List.append_eq_nil_iff] at empty
  exact lowerChar_ne_nil _ _ _ empty.1

/-- An ASCII letter that only its capital has as lower case. -/
structure LowersAlone (small capital : Char) : Prop where
  ascii : small.toNat < 0x80
  positive : small.toNat ≠ 0
  shifted : small.toNat = capital.toNat + 32
  only : ∀ run ∈ caseRuns, run.first + run.shift ≤ small.toNat → small.toNat ≤ run.last + run.shift →
    run.shift = 32

theorem lowersAlone_y : LowersAlone 'y' 'Y' :=
  ⟨by decide, by decide, rfl, by decide +kernel⟩

theorem lowersAlone_s : LowersAlone 's' 'S' :=
  ⟨by decide, by decide, rfl, by decide +kernel⟩

theorem toNat_eq_of_ofNat {code : Nat} {c : Char} (some : c.toNat ≠ 0) (same : Char.ofNat code = c) :
    code = c.toNat := by
  by_cases scalar : code.isValidChar
  · rw [← same, toNat_ofNat_of_isValidChar scalar]
  · have none : Char.ofNat code = '\x00' := dif_neg scalar
    rw [none] at same
    exact absurd (same ▸ rfl) some

section
variable {small capital : Char} (alone : LowersAlone small capital)
include alone

theorem LowersAlone.eq_or_eq {c : Char} (lowers : lowerLetter c = small) : c = small ∨ c = capital := by
  unfold lowerLetter at lowers
  split at lowers
  · rename_i shift found
    obtain ⟨run, member, inside, rfl⟩ := exists_run_of_caseShift? found
    simp only [CaseRun.contains, Bool.and_eq_true, decide_eq_true_eq] at inside
    obtain ⟨⟨first, last⟩, -⟩ := inside
    have number := toNat_eq_of_ofNat alone.positive lowers
    have positive := alone.positive
    have shifted := alone.only run member (by omega) (by omega)
    have code : c.toNat = capital.toNat := by
      have letter := alone.shifted
      omega
    exact .inr (Char.toNat_inj.mp code)
  · exact .inl lowers

theorem LowersAlone.ne {c : Char} (beyond : 0x80 ≤ c.toNat) : c ≠ small := by
  rintro rfl
  exact absurd alone.ascii (Nat.not_lt.mpr beyond)

end

theorem lowerFrom_concat (before text : List Char) (c : Char) : ∃ front further,
    lowerFrom before (text ++ [c]) = front ++ lowerChar further c [] := by
  induction text generalizing before with
  | nil => exact ⟨[], before, by simp [lowerFrom]⟩
  | cons d text ih =>
    obtain ⟨front, further, rest⟩ := ih (d :: before)
    exact ⟨lowerChar before d (text ++ [c]) ++ front, further, by
      rw [List.cons_append, lowerFrom, rest, List.append_assoc]⟩

-- A name ends with the letter, or with its capital, if its lower case ends with the letter.
theorem LowersAlone.exists_stem {small capital : Char} (alone : LowersAlone small capital) {text : String}
    (ends : (lower text).toList.getLast? = some small) :
    ∃ stem, text = stem ++ String.singleton small ∨ text = stem ++ String.singleton capital := by
  rw [lower, String.toList_ofList] at ends
  rcases List.eq_nil_or_concat' text.toList with empty | ⟨stem, c, spelled⟩
  · rw [empty] at ends
    cases ends
  · obtain ⟨front, further, lowered⟩ := lowerFrom_concat [] stem c
    rw [spelled, lowered, List.getLast?_append_of_ne_nil _ (lowerChar_ne_nil _ _ _)] at ends
    have letter : c = small ∨ c = capital := by
      unfold lowerChar at ends
      split at ends
      · split at ends
        · exact absurd (Option.some.inj ends) (alone.ne (by decide))
        · exact absurd (Option.some.inj ends) (alone.ne (by decide))
      · split at ends
        · exact absurd (Option.some.inj ends) (alone.ne (by decide))
        · exact alone.eq_or_eq (Option.some.inj ends)
    refine ⟨String.ofList stem, ?_⟩
    simp only [← String.toList_inj, String.toList_append, String.toList_ofList, String.toList_singleton,
      spelled]
    rcases letter with rfl | rfl
    · exact .inl rfl
    · exact .inr rfl

end PrismaNest.Text
