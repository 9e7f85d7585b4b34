import PrismaNest.Proofs.Blocks.Scan

/-! Blocks of two texts, one after the other.

No header goes on behind a closing brace, no body does, and no word either. So a scan that has
come to the end of a text with a closing brace starts there as if nothing stood before. This holds
of any text, whether or not its blocks are closed.
-/

set_option autoImplicit false

namespace PrismaNest.Block

open Text

variable {keyword first second rest : List Char} {block : Block}

-- A block that is read is read as well where more text follows.
theorem read?_append (found : read? keyword first = some (block, rest)) (second : List Char) :
    read? keyword (first ++ second) = some (block, rest ++ second) := by
  obtain ⟨header, named, clear, rfl⟩ := read?_eq_some_iff.mp found
  exact read?_eq_some_iff.mpr ⟨header, named, clear, List.append_assoc _ _ _⟩

section
variable (word : ∀ c ∈ keyword, isWordChar c = true)
include word

-- The closing brace of a block is its only one.
theorem close_not_mem_front {body : List Char} (header : Header) (clear : '}' ∉ body) :
    '}' ∉ keyword ++ header.text ++ body := by
  intro member
  rcases List.mem_append.mp member with member | inBody
  · rcases List.mem_append.mp member with inKeyword | inHeader
    · exact absurd (word _ inKeyword) (by decide)
    · exact header.close_not_mem_text inHeader
  · exact clear inBody

-- A block that begins in a text with a closing brace at its end also ends there.
theorem read?_of_append {after : List Char} (closed : first.getLast? = some '}')
    (found : read? keyword (first ++ second) = some (block, after)) :
    ∃ rest, read? keyword first = some (block, rest) ∧ after = rest ++ second ∧
      (rest = [] ∨ rest.getLast? = some '}') := by
  obtain ⟨header, named, clear, same⟩ := read?_eq_some_iff.mp found
  obtain ⟨front, rfl⟩ := List.getLast?_eq_some_iff.mp closed
  have absent := close_not_mem_front word header clear
  have reads : ∀ rest, front ++ ['}'] = keyword ++ header.text ++ block.body ++ '}' :: rest →
      read? keyword (front ++ ['}']) = some (block, rest) := fun rest split =>
    read?_eq_some_iff.mpr ⟨header, named, clear, by rw [split, written, List.append_assoc _ ['}']]; rfl⟩
  rw [written, List.append_assoc, List.append_assoc _ ['}'] after] at same
  rcases List.append_eq_append_iff.mp same with ⟨beyond, longer, braces⟩ | ⟨inside, shorter, braces⟩
  · -- The block reaches at least to the brace at the end, and no further.
    cases beyond with
    | nil =>
      obtain ⟨-, rfl⟩ := List.cons.inj braces
      rw [List.append_nil] at longer
      exact ⟨[], reads [] (by rw [longer]), rfl, .inl rfl⟩
    | cons c beyond =>
      obtain ⟨rfl, -⟩ := List.cons.inj braces
      exact absurd (longer ▸ List.mem_append_right front List.mem_cons_self) absent
  · cases inside with
    | nil =>
      obtain ⟨-, rfl⟩ := List.cons.inj braces
      rw [List.append_nil] at shorter
      exact ⟨[], reads [] (by rw [shorter]), rfl, .inl rfl⟩
    | cons c inside =>
      obtain ⟨rfl, rfl⟩ := List.cons.inj braces
      refine ⟨inside ++ ['}'], reads _ ?_, by simp, .inr List.getLast?_concat⟩
      rw [shorter, List.append_assoc]
      rfl

/-- Behind a closing brace the scan starts afresh. -/
theorem extractFrom_append_of_closed (closed : first.getLast? = some '}') (insideWord : Bool)
    (second : List Char) :
    extractFrom keyword insideWord (first ++ second) =
      extractFrom keyword insideWord first ++ extractFrom keyword false second := by
  induction size : first.length using Nat.strong_induction_on generalizing first insideWord with
  | _ size ih =>
    subst size
    obtain ⟨c, text, rfl⟩ : ∃ c text, first = c :: text :=
      List.exists_cons_of_ne_nil (by rintro rfl; cases closed)
    by_cases passes : Passes keyword insideWord (c :: (text ++ second))
    · have alone : Passes keyword insideWord (c :: text) := by
        refine passes.imp_right fun unread => ?_
        by_contra read
        obtain ⟨⟨block, rest⟩, found⟩ := Option.ne_none_iff_exists'.mp read
        have longer := read?_append found second
        rw [List.cons_append, unread] at longer
        cases longer
      rw [extractFrom_cons_of_passes alone, List.cons_append, extractFrom_cons_of_passes passes]
      cases text with
      | nil =>
        cases closed
        rw [extractFrom_nil]
        rfl
      | cons d text => exact ih _ (by simp) (by rwa [List.getLast?_cons_cons] at closed) _ rfl
    · obtain ⟨outside, read⟩ := not_or.mp passes
      rw [Bool.not_eq_true] at outside
      subst outside
      obtain ⟨⟨block, after⟩, found⟩ := Option.ne_none_iff_exists'.mp read
      obtain ⟨rest, alone, rfl, left⟩ := read?_of_append word closed found
      rw [List.cons_append, extractFrom_of_read? found, extractFrom_of_read? alone, List.cons_append]
      rcases left with rfl | closedRest
      · rw [extractFrom_nil]
        rfl
      · rw [ih _ (length_read?_lt alone) closedRest false rfl]

end

theorem extract_append {keyword : String} (word : ∀ c ∈ keyword.toList, isWordChar c = true)
    (closed : first.getLast? = some '}') (second : List Char) :
    extract keyword (first ++ second) = extract keyword first ++ extract keyword second :=
  extractFrom_append_of_closed word closed false second

theorem models_append (closed : first.getLast? = some '}') (second : List Char) :
    models (first ++ second) = models first ++ models second :=
  extract_append (List.all_eq_true.mp (by decide)) closed second

theorem enums_append (closed : first.getLast? = some '}') (second : List Char) :
    enums (first ++ second) = enums first ++ enums second :=
  extract_append (List.all_eq_true.mp (by decide)) closed second

end PrismaNest.Block
