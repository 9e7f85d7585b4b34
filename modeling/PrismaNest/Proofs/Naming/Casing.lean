import PrismaNest.Proofs.Naming.Joining

/-! The casing styles, read back.

A name in another style has the words of the name again, as far as the style leaves their seams visible.
Hyphens always do. Capitals do not between two single letters, which become a run of capitals, and
nothing tells one number from the next.
-/

set_option autoImplicit false

namespace PrismaNest.Naming

/-- A word of a single letter. -/
def IsLetter (word : String) : Prop :=
  ∃ c : Char, c.isAlpha = true ∧ word.toList = [c]

/-- No two words next to each other are single letters. -/
def LettersApart (words : List String) : Prop :=
  words.IsChain fun word next => ¬ (IsLetter word ∧ IsLetter next)

/-- No two words next to each other are numbers. -/
def NumbersApart (words : List String) : Prop :=
  words.IsChain fun word next => ¬ (IsNumber word.toList ∧ IsNumber next.toList)

theorem isChain_and {α : Type} {first second : α → α → Prop} {list : List α} :
    (list.IsChain fun a b => first a b ∧ second a b) ↔ list.IsChain first ∧ list.IsChain second := by
  simp only [List.isChain_iff_forall_rel_of_append_cons_cons]
  exact ⟨fun both => ⟨fun _ _ _ _ split => (both split).1, fun _ _ _ _ split => (both split).2⟩,
    fun ⟨one, other⟩ _ _ _ _ split => ⟨one split, other split⟩⟩

section
variable {c d : Char}

theorem of_isLower (small : c.isLower = true) :
    c.toLower = c ∧ c.toUpper.isUpper = true ∧ c.toUpper.toLower = c :=
  of_isAlphanum (P := fun c => c.isLower = true →
    c.toLower = c ∧ c.toUpper.isUpper = true ∧ c.toUpper.toLower = c) (by decide +kernel)
    (by simp [Char.isAlphanum, isAlpha_eq, small]) small

theorem of_isDigit (digit : c.isDigit = true) :
    c.toLower = c ∧ c.toUpper = c ∧ c.isUpper = false ∧ c.isLower = false :=
  of_isAlphanum (P := fun c => c.isDigit = true →
    c.toLower = c ∧ c.toUpper = c ∧ c.isUpper = false ∧ c.isLower = false) (by decide +kernel)
    (by simp [Char.isAlphanum, digit]) digit

theorem startsWord_digit (digit : d.isDigit = true) (next : Option Char) :
    startsWord c d next = !c.isDigit := by
  simp only [startsWord, digit, ↓reduceIte]

end

theorem IsNumber.isOneWord {text : List Char} (number : IsNumber text) : IsOneWord text := by
  refine isOneWord_of_kind (fun c digit => by simp [Char.isAlphanum, digit]) ?_ number.some number.digits
  intro c d digit digitNext next _
  rw [startsWord_digit digitNext, digit]
  rfl

theorem toList_capitalize (word : String) :
    (capitalize word).toList = word.toList.modifyHead Char.toUpper := by
  unfold capitalize
  split
  · rename_i empty
    rw [empty]
    rfl
  · rename_i c rest spelled
    rw [spelled, String.toList_ofList]
    rfl

/-- A word as names have it, however it was written. -/
def lowered (word : List Char) : String :=
  String.ofList (word.map Char.toLower)

/-- How the words of a name are spelled. -/
inductive IsSpelled (word : String) : Prop where
  | small : IsSmall word.toList → IsSpelled word
  | number : IsNumber word.toList → IsSpelled word

theorem isSpelled_of_mem_words {name word : String} (member : word ∈ words name) : IsSpelled word :=
  (isSmall_or_isNumber_of_mem_words member).elim .small .number

section
variable {word next : String} {c : Char}

theorem IsSmall.not_isNumber {text : List Char} (small : IsSmall text) : ¬ IsNumber text := by
  intro number
  obtain ⟨c, rest, rfl, first⟩ := small.exists_cons
  rw [(of_isDigit (number.digits c List.mem_cons_self)).2.2.2] at first
  cases first

theorem IsNumber.not_isLetter (number : IsNumber word.toList) : ¬ IsLetter word := by
  rintro ⟨c, letter, spelled⟩
  have digit := number.digits c (by simp [spelled])
  rw [not_isDigit_of_isAlpha letter] at digit
  cases digit

theorem isLetter_iff {rest : List Char} (small : c.isLower = true) (spelled : word.toList = c :: rest) :
    IsLetter word ↔ rest = [] := by
  constructor
  · rintro ⟨d, -, single⟩
    rw [spelled] at single
    exact (List.cons.inj single).2
  · rintro rfl
    exact ⟨c, by simp [isAlpha_eq, small], spelled⟩

theorem capitalize_number (number : IsNumber word.toList) : (capitalize word).toList = word.toList := by
  rw [toList_capitalize]
  obtain ⟨some, digits⟩ := number
  obtain ⟨c, rest, spelled⟩ := List.exists_cons_of_ne_nil some
  rw [spelled] at digits ⊢
  rw [List.modifyHead_cons, (of_isDigit (digits c List.mem_cons_self)).2.1]

theorem capitalize_small (small : IsSmall word.toList) : ∃ c rest, word.toList = c :: rest ∧
    (capitalize word).toList = c.toUpper :: rest ∧ c.isLower = true ∧ ∀ d ∈ rest, d.isLower = true := by
  obtain ⟨c, rest, spelled, first⟩ := small.exists_cons
  have others := small.small
  rw [spelled, List.forall_mem_cons] at others
  refine ⟨c, rest, spelled, ?_, first, others.2⟩
  rw [toList_capitalize, spelled]
  rfl

theorem IsSpelled.isOneWord (spelled : IsSpelled word) : IsOneWord word.toList := by
  cases spelled with
  | small small => exact small.isOneWord
  | number number => exact number.isOneWord

theorem IsSpelled.map_toLower (spelled : IsSpelled word) : word.toList.map Char.toLower = word.toList := by
  have same : ∀ c ∈ word.toList, c.toLower = c := by
    cases spelled with
    | small small =>
      exact fun c member => (of_isLower (small.small c member)).1
    | number number =>
      exact fun c member => (of_isDigit (number.digits c member)).1
  exact (List.map_congr_left same).trans (List.map_id _)

theorem IsSpelled.lowered_toList (spelled : IsSpelled word) : lowered word.toList = word := by
  rw [lowered, spelled.map_toLower, String.ofList_toList]

-- A capital or no capital, the word is the same.
theorem IsSpelled.lowered_capitalize (spelled : IsSpelled word) : lowered (capitalize word).toList = word := by
  have same := spelled.map_toLower
  cases spelled with
  | small small =>
    obtain ⟨c, rest, written, capital, first, -⟩ := capitalize_small small
    rw [written, List.map_cons, (of_isLower first).1] at same
    rw [lowered, capital, List.map_cons, (of_isLower first).2.2, same, ← written, String.ofList_toList]
  | number number => rw [lowered, capitalize_number number, same, String.ofList_toList]

theorem IsSpelled.isOneWord_capitalize (spelled : IsSpelled word) : IsOneWord (capitalize word).toList := by
  cases spelled with
  | small small =>
    obtain ⟨c, rest, -, capital, first, others⟩ := capitalize_small small
    have upper := (of_isLower first).2.1
    rw [capital]
    by_cases single : rest = []
    · rw [single]
      exact isOneWord_capitals (List.cons_ne_nil _ _) (by simpa using upper)
    · exact (IsSmall.mk single others).isOneWord_cons (by simp [isAlpha_eq, upper])
  | number number =>
    rw [capitalize_number number]
    exact number.isOneWord

-- A capitalised word does not start with a small letter, so it can stand behind another word.
theorem IsSpelled.not_isLower_head (spelled : IsSpelled word) :
    ∀ c ∈ (capitalize word).toList.head?, c.isLower = false := by
  cases spelled with
  | small small =>
    obtain ⟨c, rest, -, capital, first, -⟩ := capitalize_small small
    rw [capital]
    rintro _ ⟨⟩
    exact not_isLower_of_isUpper (of_isLower first).2.1
  | number number =>
    rw [capitalize_number number]
    exact fun c member => (of_isDigit (number.digits c (List.mem_of_mem_head? member))).2.2.2

/-! ### Seams -/

-- A capital is no seam between capitals, unless small letters follow, and a digit is none after a digit.
theorem IsSpelled.endsWord_capitalize (spelled : IsSpelled next) (alphanumeric : c.isAlphanum = true) :
    endsWord c (capitalize next).toList = true ↔
      ¬ (c.isDigit = true ∧ IsNumber next.toList) ∧ ¬ (c.isUpper = true ∧ IsLetter next) := by
  cases spelled with
  | small small =>
    obtain ⟨d, rest, written, capital, first, others⟩ := capitalize_small small
    have upper := (of_isLower first).2.1
    have inside : d.toUpper.isAlphanum = true := by simp [Char.isAlphanum, isAlpha_eq, upper]
    rw [isLetter_iff first written, capital, endsWord, alphanumeric, inside, startsWord_capital upper]
    cases rest with
    | nil => simp [small.not_isNumber]
    | cons e rest => simp [small.not_isNumber, others e List.mem_cons_self]
  | number number =>
    have single := number.not_isLetter
    rw [capitalize_number number]
    obtain ⟨d, rest, written⟩ := List.exists_cons_of_ne_nil number.some
    have digit := number.digits d (by simp [written])
    have inside : d.isAlphanum = true := by simp [Char.isAlphanum, digit]
    rw [written, endsWord, alphanumeric, inside, startsWord_digit digit, ← written]
    simp [single, number]

theorem IsSpelled.exists_last (spelled : IsSpelled word) : ∃ front c, word.toList = front ++ [c] ∧
    c.isAlphanum = true ∧ c.isUpper = false ∧ (c.isDigit = true ↔ IsNumber word.toList) := by
  have alphanumeric := spelled.isOneWord.isAlphanum
  obtain ⟨front, c, written⟩ := (List.eq_nil_or_concat' _).resolve_left spelled.isOneWord.ne_nil
  have last : c ∈ word.toList := by simp [written]
  refine ⟨front, c, written, alphanumeric c last, ?_⟩
  cases spelled with
  | small small =>
    have letter := small.small c last
    refine ⟨not_isUpper_of_isLower letter, iff_of_false ?_ small.not_isNumber⟩
    rw [not_isDigit_of_isAlpha (by simp [isAlpha_eq, letter])]
    exact Bool.false_ne_true
  | number number =>
    have digit := number.digits c last
    exact ⟨(of_isDigit digit).2.2.1, iff_of_true digit number⟩

-- Only the capital of a single letter is the last of its word.
theorem IsSpelled.exists_last_capitalize (spelled : IsSpelled word) : ∃ front c,
    (capitalize word).toList = front ++ [c] ∧ c.isAlphanum = true ∧
      (c.isUpper = true ↔ IsLetter word) ∧ (c.isDigit = true ↔ IsNumber word.toList) := by
  cases spelled with
  | small small =>
    obtain ⟨c, rest, written, capital, first, others⟩ := capitalize_small small
    rw [isLetter_iff first written, capital]
    have noDigit {d : Char} (letter : d.isAlpha = true) : d.isDigit = true ↔ IsNumber word.toList := by
      rw [not_isDigit_of_isAlpha letter]
      exact iff_of_false Bool.false_ne_true small.not_isNumber
    rcases List.eq_nil_or_concat' rest with rfl | ⟨front, d, rfl⟩
    · have upper := (of_isLower first).2.1
      exact ⟨[], c.toUpper, rfl, by simp [Char.isAlphanum, isAlpha_eq, upper], iff_of_true upper rfl,
        noDigit (by simp [isAlpha_eq, upper])⟩
    · have last := others d (by simp)
      refine ⟨c.toUpper :: front, d, rfl, by simp [Char.isAlphanum, isAlpha_eq, last], ?_,
        noDigit (by simp [isAlpha_eq, last])⟩
      simp [not_isUpper_of_isLower last]
  | number number =>
    rw [capitalize_number number]
    obtain ⟨front, c, written, alphanumeric, noCapital, digit⟩ := (IsSpelled.number number).exists_last
    exact ⟨front, c, written, alphanumeric, by simp [noCapital, number.not_isLetter], digit⟩

theorem endsBefore_capitalized (spelled : IsSpelled word) (follows : IsSpelled next) :
    EndsBefore (capitalize word).toList (capitalize next).toList ↔
      ¬ (IsNumber word.toList ∧ IsNumber next.toList) ∧ ¬ (IsLetter word ∧ IsLetter next) := by
  obtain ⟨front, c, written, alphanumeric, letter, number⟩ := spelled.exists_last_capitalize
  rw [endsBefore_iff written, follows.endsWord_capitalize alphanumeric, letter, number]

theorem endsBefore_small (spelled : IsSpelled word) (follows : IsSpelled next) :
    EndsBefore word.toList (capitalize next).toList ↔ ¬ (IsNumber word.toList ∧ IsNumber next.toList) := by
  obtain ⟨front, c, written, alphanumeric, noCapital, number⟩ := spelled.exists_last
  rw [endsBefore_iff written, follows.endsWord_capitalize alphanumeric, noCapital, number]
  simp

end

/-! ### Styles -/

-- Words that are joined are found again exactly if every seam shows.
theorem words_join_iff {spellings list : List String} (joinable : Joinable (spellings.map String.toList))
    (same : (spellings.map String.toList).map lowered = list) :
    words (String.join spellings) = list ↔ (spellings.map String.toList).IsChain EndsBefore := by
  rw [words, String.toList_join, List.flatMap_def, ← same]
  exact joinable.map_wordsAsWritten_iff lowered

section
variable {list : List String} (spelled : ∀ word ∈ list, IsSpelled word)
include spelled

theorem map_lowered : (list.map String.toList).map lowered = list := by
  rw [List.map_map]
  exact (List.map_congr_left fun word member => (spelled word member).lowered_toList).trans (List.map_id _)

theorem map_lowered_capitalized : ((list.map capitalize).map String.toList).map lowered = list := by
  rw [List.map_map, List.map_map]
  exact (List.map_congr_left fun word member => (spelled word member).lowered_capitalize).trans (List.map_id _)

-- Whichever word stands in front of them, capitalised words are joined to it.
theorem joinable_cons {first : List Char} (start : IsOneWord first) :
    Joinable (first :: (list.map capitalize).map String.toList) where
  words := by
    simp only [List.forall_mem_cons, List.forall_mem_map]
    exact ⟨start, fun word member => (spelled word member).isOneWord_capitalize⟩
  starts := by
    simp only [List.tail_cons, List.forall_mem_map]
    exact fun word member => (spelled word member).not_isLower_head

theorem joinable_capitalized : Joinable ((list.map capitalize).map String.toList) := by
  cases list with
  | nil => exact ⟨by simp, by simp⟩
  | cons first rest =>
    obtain ⟨start, others⟩ := List.forall_mem_cons.mp spelled
    exact joinable_cons others start.isOneWord_capitalize

theorem isChain_capitalized_iff :
    ((list.map capitalize).map String.toList).IsChain EndsBefore ↔
      NumbersApart list ∧ LettersApart list := by
  rw [List.isChain_map, List.isChain_map, NumbersApart, LettersApart, ← isChain_and]
  exact List.IsChain.iff_of_mem_imp fun word next member other =>
    endsBefore_capitalized (spelled word member) (spelled next other)

end

theorem words_pascalCase_iff (name : String) :
    words (pascalCase name) = words name ↔ LettersApart (words name) ∧ NumbersApart (words name) := by
  have spelled : ∀ word ∈ words name, IsSpelled word := fun _ => isSpelled_of_mem_words
  rw [pascalCase, words_join_iff (joinable_capitalized spelled) (map_lowered_capitalized spelled),
    isChain_capitalized_iff spelled, and_comm]

theorem camelCase_eq {name first : String} {rest : List String} (listed : words name = first :: rest) :
    camelCase name = String.join (first :: rest.map capitalize) := by
  rw [camelCase, listed, ← String.toList_inj, String.toList_append, String.toList_join, String.toList_join]
  rfl

-- The first word starts small, so no capital of it is joined with the next.
theorem words_camelCase_iff (name : String) :
    words (camelCase name) = words name ↔ NumbersApart (words name) ∧ LettersApart (words name).tail := by
  cases listed : words name with
  | nil =>
    rw [camelCase, listed]
    exact iff_of_true rfl ⟨.nil, .nil⟩
  | cons first rest =>
    have spelled : ∀ word ∈ first :: rest, IsSpelled word := by
      rw [← listed]
      exact fun _ => isSpelled_of_mem_words
    obtain ⟨start, others⟩ := List.forall_mem_cons.mp spelled
    have joinable : Joinable ((first :: rest.map capitalize).map String.toList) :=
      joinable_cons others start.isOneWord
    have same : ((first :: rest.map capitalize).map String.toList).map lowered = first :: rest := by
      rw [List.map_cons, List.map_cons, map_lowered_capitalized others, start.lowered_toList]
    have seam : (∀ next ∈ ((rest.map capitalize).map String.toList).head?, EndsBefore first.toList next) ↔
        ∀ next ∈ rest.head?, ¬ (IsNumber first.toList ∧ IsNumber next.toList) := by
      cases rest with
      | nil => simp
      | cons next rest =>
        simpa using endsBefore_small start (others next List.mem_cons_self)
    have numbers : NumbersApart (first :: rest) ↔
        (∀ next ∈ rest.head?, ¬ (IsNumber first.toList ∧ IsNumber next.toList)) ∧ NumbersApart rest :=
      List.isChain_cons
    rw [camelCase_eq listed, words_join_iff joinable same, List.map_cons, List.isChain_cons, seam,
      isChain_capitalized_iff others, numbers, and_assoc, List.tail_cons]

theorem words_kebabCase (name : String) : words (kebabCase name) = words name := by
  have spelled : ∀ word ∈ words name, IsSpelled word := fun _ => isSpelled_of_mem_words
  have pieces : ∀ piece ∈ (words name).map String.toList, IsOneWord piece :=
    List.forall_mem_map.mpr fun word member => (spelled word member).isOneWord
  have hyphen : "-".toList = ['-'] := rfl
  rw [kebabCase, words, String.toList_intercalate, hyphen, wordsAsWritten_intercalate rfl pieces]
  exact map_lowered spelled

/-- A name in another style has its words again: with hyphens always, and joined with capitals exactly if
no two single letters are joined, of which both become capitals, and no two numbers. -/
theorem words_restyled (name : String) :
    words (kebabCase name) = words name ∧ kebabCase (kebabCase name) = kebabCase name ∧
      (words (pascalCase name) = words name ↔ LettersApart (words name) ∧ NumbersApart (words name)) ∧
      (words (camelCase name) = words name ↔ NumbersApart (words name) ∧ LettersApart (words name).tail) := by
  refine ⟨words_kebabCase name, ?_, words_pascalCase_iff name, words_camelCase_iff name⟩
  rw [kebabCase, words_kebabCase, kebabCase]

-- Two single letters are a run of capitals afterwards, unless the first of them starts the name.
example : words "plan_b_c" = ["plan", "b", "c"] ∧ words (camelCase "plan_b_c") = ["plan", "bc"] ∧
    words (camelCase "a_b") = ["a", "b"] := by decide +kernel

end PrismaNest.Naming
