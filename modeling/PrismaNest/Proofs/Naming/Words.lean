import Mathlib.Data.List.Basic
import PrismaNest.Naming.Plural
import PrismaNest.Proofs.Text.Absence
import PrismaNest.Proofs.Text.Lowering

/-! Characters of words and of what is built from them.

The words of a name are of ASCII letters and digits, so the styles built from words hold no
other signs than those put between the words.
-/

set_option autoImplicit false

namespace PrismaNest.Naming

open Text

theorem mem_joinFirst {c : Char} {words : List (List Char)} {word : List Char}
    (member : word ∈ joinFirst c words) : word = [c] ∨ (∃ first, word = c :: first ∧ first ∈ words) ∨ word ∈ words := by
  cases words with
  | nil => exact .inl (List.mem_singleton.mp member)
  | cons first words =>
    rcases List.mem_cons.mp member with rfl | member
    · exact .inr (.inl ⟨first, rfl, List.mem_cons_self⟩)
    · exact .inr (.inr (List.mem_cons_of_mem first member))

-- Words consist of ASCII letters and digits.
theorem isAlphanum_of_mem_wordsAsWritten {text word : List Char} (member : word ∈ wordsAsWritten text) :
    ∀ c ∈ word, c.isAlphanum = true := by
  fun_induction wordsAsWritten text generalizing word with
  | case1 => cases member
  | case2 c alphanumeric d after _ ih =>
    rcases mem_joinFirst member with rfl | ⟨first, rfl, firstMember⟩ | member
    · simpa using alphanumeric
    · simpa [alphanumeric] using ih firstMember
    · exact ih member
  | case3 c alphanumeric d after _ ih =>
    rcases List.mem_cons.mp member with rfl | member
    · simpa using alphanumeric
    · exact ih member
  | case4 c alphanumeric =>
    rw [List.mem_singleton.mp member]
    simpa using alphanumeric
  | case5 c rest _ ih => exact ih member

theorem toNat_lt_of_isAlphanum {c : Char} (alphanumeric : c.isAlphanum = true) : c.toNat < 0x80 := by
  have ranges : c.isAlphanum = (decide (c.val ≥ 'A'.val ∧ c.val ≤ 'Z'.val) ||
      decide (c.val ≥ 'a'.val) && decide (c.val ≤ 'z'.val) ||
      decide (c.val ≥ '0'.val) && decide (c.val ≤ '9'.val)) := rfl
  simp only [ranges, Bool.or_eq_true, Bool.and_eq_true, decide_eq_true_eq,
    UInt32.le_iff_toNat_le] at alphanumeric
  have bounds : 'Z'.val.toNat = 90 ∧ 'z'.val.toNat = 122 ∧ '9'.val.toNat = 57 := by decide
  change c.val.toNat < 0x80
  omega

-- What holds of all ASCII letters and digits can be tried on each of them.
theorem of_isAlphanum {P : Char → Prop}
    (ascii : ∀ code ∈ List.range 0x80, (Char.ofNat code).isAlphanum = true → P (Char.ofNat code))
    {c : Char} (alphanumeric : c.isAlphanum = true) : P c := by
  have holds := ascii c.toNat (List.mem_range.mpr (toNat_lt_of_isAlphanum alphanumeric))
  rw [Char.ofNat_toNat] at holds
  exact holds alphanumeric

theorem toLower_of_isAlphanum {c : Char} (alphanumeric : c.isAlphanum = true) :
    c.toLower.isAlphanum = true ∧ c.toLower.isUpper = false ∧ c.toLower.isDigit = c.isDigit :=
  of_isAlphanum (P := fun c => c.toLower.isAlphanum = true ∧ c.toLower.isUpper = false ∧
    c.toLower.isDigit = c.isDigit) (by decide +kernel) alphanumeric

theorem of_mem_words {name word : String} (member : word ∈ words name) :
    ∀ c ∈ word.toList, c.isAlphanum = true ∧ c.isUpper = false := by
  obtain ⟨written, writtenMember, rfl⟩ := List.mem_map.mp member
  rw [String.toList_ofList, List.forall_mem_map]
  intro c inside
  obtain ⟨alphanumeric, small, -⟩ :=
    toLower_of_isAlphanum (isAlphanum_of_mem_wordsAsWritten writtenMember c inside)
  exact ⟨alphanumeric, small⟩

theorem lacks_of_mem_words {sign : Char} (other : sign.isAlphanum = false) {name word : String}
    (member : word ∈ words name) : Lacks sign word := by
  intro inside
  rw [(of_mem_words member sign inside).1] at other
  cases other

theorem lacks_kebabCase {sign : Char} (other : sign.isAlphanum = false) (noHyphen : sign ≠ '-')
    (name : String) : Lacks sign (kebabCase name) := by
  have hyphen : Lacks sign "-" := by
    intro member
    exact noHyphen (List.mem_singleton.mp member)
  exact lacks_intercalate hyphen fun word member => lacks_of_mem_words other member

-- The words of a name are in small letters.
theorem lacks_kebabCase_of_isUpper {sign : Char} (capital : sign.isUpper = true) (name : String) :
    Lacks sign (kebabCase name) := by
  have hyphen : Lacks sign "-" := by
    intro member
    rw [List.mem_singleton.mp member] at capital
    cases capital
  refine lacks_intercalate hyphen fun word member inside => ?_
  rw [(of_mem_words member sign inside).2] at capital
  cases capital

theorem ne_nil_of_mem_wordsAsWritten {text word : List Char} (member : word ∈ wordsAsWritten text) :
    word ≠ [] := by
  fun_induction wordsAsWritten text generalizing word with
  | case1 => cases member
  | case2 c _ d after _ ih =>
    rcases mem_joinFirst member with rfl | ⟨first, rfl, -⟩ | member
    · exact List.cons_ne_nil _ _
    · exact List.cons_ne_nil _ _
    · exact ih member
  | case3 c _ d after _ ih =>
    rcases List.mem_cons.mp member with rfl | member
    · exact List.cons_ne_nil _ _
    · exact ih member
  | case4 c _ =>
    rw [List.mem_singleton.mp member]
    exact List.cons_ne_nil _ _
  | case5 c rest _ ih => exact ih member

theorem ne_empty_of_mem_words {name word : String} (member : word ∈ words name) : word ≠ "" := by
  obtain ⟨written, writtenMember, rfl⟩ := List.mem_map.mp member
  simpa using ne_nil_of_mem_wordsAsWritten writtenMember

theorem lacks_lowerFirst {sign : Char} (outside : isLabelChar sign = false) {name : String}
    (word : ∀ c ∈ name.toList, isWordChar c = true) : Lacks sign (lowerFirst name) := by
  unfold lowerFirst
  split
  · exact List.not_mem_nil
  · rename_i c rest spelled
    rw [lacks_ofList, List.mem_append, not_or]
    have label : ∀ d ∈ name.toList, isLabelChar d = true :=
      fun d member => isLabelChar_of_isWordChar (word d member)
    constructor
    · intro member
      have first := isLabelChar_of_mem_lowerChar (label c (by simp [spelled])) member
      rw [first] at outside
      cases outside
    · intro member
      rw [label sign (by simp [spelled, member])] at outside
      cases outside

end PrismaNest.Naming
