import PrismaNest.Proofs.Text.Pieces
import PrismaNest.Proofs.Text.Runs

/-! Symbols of a text.

The runs of a text are its longest parts of characters of one kind. Where such a run ends or does not
begin, a text can be taken apart, and its runs are those of the parts. The symbols of code are the runs
of word characters, with the sign of a decorator in front of its name.
-/

set_option autoImplicit false

namespace PrismaNest.Text

/-- The longest parts of a text that consist of characters of some kind. -/
def runsOf (p : Char → Bool) (text : List Char) : List (List Char) :=
  (text.splitOnP fun c => !p c).filter (!·.isEmpty)

section
variable {p : Char → Bool}

@[simp] theorem runsOf_nil : runsOf p [] = [] := by
  simp [runsOf]

-- A character of another kind ends a run and belongs to none.
theorem runsOf_append_cons {c : Char} (outside : p c = false) (front back : List Char) :
    runsOf p (front ++ c :: back) = runsOf p front ++ runsOf p back := by
  rw [runsOf, List.splitOnP_append_cons _ _ (by simp [outside]), List.filter_append]
  rfl

theorem runsOf_append_of_startsOutside (front : List Char) {back : List Char}
    (start : StartsOutside p back) : runsOf p (front ++ back) = runsOf p front ++ runsOf p back := by
  cases back with
  | nil => simp
  | cons c back =>
    have alone : runsOf p (c :: back) = runsOf p back := runsOf_append_cons (start c rfl) [] back
    rw [runsOf_append_cons (start c rfl), alone]

theorem runsOf_append_of_endsOutside {front : List Char} (ends : EndsOutside p front)
    (back : List Char) : runsOf p (front ++ back) = runsOf p front ++ runsOf p back := by
  rcases List.eq_nil_or_concat front with rfl | ⟨front, c, rfl⟩
  · rw [runsOf_nil, List.nil_append, List.nil_append]
  · have outside : p c = false := ends c (by simp)
    rw [List.concat_eq_append, List.append_assoc, List.singleton_append, runsOf_append_cons outside,
      runsOf_append_cons outside, runsOf_nil, List.append_nil]

theorem runsOf_run {run : List Char} (all : ∀ c ∈ run, p c = true) (inside : run ≠ []) :
    runsOf p run = [run] := by
  have whole : run.splitOnP (fun c => !p c) = [run] :=
    List.splitOnP_eq_singleton fun c member => by simp [all c member]
  rw [runsOf, whole, List.filter_cons_of_pos (by simpa using inside), List.filter_nil]

theorem sublist_of_mem_runsOf {text run : List Char} (member : run ∈ runsOf p text) : run.Sublist text :=
  sublist_of_mem_splitOnP (List.mem_filter.mp member).1

-- Behind any text, a run goes on from the end of that text, and is the last run.
theorem suffix_or_mem_of_mem_runsOf {front run found : List Char} (all : ∀ c ∈ run, p c = true)
    (inside : run ≠ []) (member : found ∈ runsOf p (front ++ run)) :
    run <:+ found ∨ found.Sublist front := by
  have stop : EndsOutside p (front.rdropWhile p) := by
    intro c last
    have nonempty : front.rdropWhile p ≠ [] := by
      rintro empty
      rw [empty] at last
      cases last
    have outside := List.rdropWhile_last_not p front nonempty
    rw [List.getLast?_eq_some_getLast nonempty, Option.some_inj] at last
    rwa [last, Bool.not_eq_true] at outside
  have parted : front = front.rdropWhile p ++ front.rtakeWhile p :=
    List.rdropWhile_append_rtakeWhile.symm
  have goesOn : ∀ c ∈ front.rtakeWhile p ++ run, p c = true := by
    rw [List.forall_mem_append]
    exact ⟨fun c member => List.mem_rtakeWhile_imp member, all⟩
  rw [parted, List.append_assoc, runsOf_append_of_endsOutside stop,
    runsOf_run goesOn (by simp [inside]), List.mem_append, List.mem_singleton] at member
  rcases member with before | rfl
  · exact .inr ((sublist_of_mem_runsOf before).trans (List.rdropWhile_prefix p front).sublist)
  · exact .inl (List.suffix_append _ _)

end

/-! ### Symbols of code -/

def isSymbolChar (c : Char) : Bool :=
  isWordChar c || c = '@'

/-- The words of a text, and the decorators with their signs. -/
def symbols (text : String) : List String :=
  (runsOf isSymbolChar text.toList).map String.ofList

theorem symbols_append_of_endsOutside {front : String} (ends : EndsOutside isSymbolChar front.toList)
    (back : String) : symbols (front ++ back) = symbols front ++ symbols back := by
  rw [symbols, String.toList_append, runsOf_append_of_endsOutside ends, List.map_append]
  rfl

theorem symbols_append_of_startsOutside (front : String) {back : String}
    (start : StartsOutside isSymbolChar back.toList) :
    symbols (front ++ back) = symbols front ++ symbols back := by
  rw [symbols, String.toList_append, runsOf_append_of_startsOutside _ start, List.map_append]
  rfl

theorem symbols_word {word : String} (all : ∀ c ∈ word.toList, isWordChar c = true)
    (inside : word ≠ "") : symbols word = [word] := by
  have symbol : ∀ c ∈ word.toList, isSymbolChar c = true :=
    fun c member => by simp [isSymbolChar, all c member]
  rw [symbols, runsOf_run symbol (by simpa using inside), List.map_singleton, String.ofList_toList]

theorem lacks_of_mem_symbols {c : Char} {text symbol : String} (absent : Lacks c text)
    (member : symbol ∈ symbols text) : Lacks c symbol := by
  obtain ⟨run, inside, rfl⟩ := List.mem_map.mp member
  exact lacks_ofList.mpr fun occurs => absent ((sublist_of_mem_runsOf inside).mem occurs)

/-- A text whose symbols all have some property. -/
def AllSymbols (P : String → Prop) (text : String) : Prop :=
  ∀ symbol ∈ symbols text, P symbol

instance (P : String → Prop) [DecidablePred P] (text : String) : Decidable (AllSymbols P text) :=
  inferInstanceAs (Decidable (∀ symbol ∈ symbols text, P symbol))

namespace AllSymbols

variable {P Q : String → Prop} {front mark back text : String}

theorem mono (implies : ∀ symbol, P symbol → Q symbol) (all : AllSymbols P text) : AllSymbols Q text :=
  fun symbol member => implies symbol (all symbol member)

theorem append_of_endsOutside (ends : EndsOutside isSymbolChar mark.toList) (marks : AllSymbols P mark)
    (all : AllSymbols P back) : AllSymbols P (mark ++ back) := by
  rw [AllSymbols, symbols_append_of_endsOutside ends, List.forall_mem_append]
  exact ⟨marks, all⟩

theorem append_of_startsOutside (all : AllSymbols P front) (starts : StartsOutside isSymbolChar mark.toList)
    (marks : AllSymbols P mark) : AllSymbols P (front ++ mark) := by
  rw [AllSymbols, symbols_append_of_startsOutside _ starts, List.forall_mem_append]
  exact ⟨all, marks⟩

end AllSymbols

/-- A text that keeps what stands before it apart from what comes behind. -/
structure IsMark (text : String) : Prop where
  nonempty : text ≠ ""
  starts : StartsOutside isSymbolChar text.toList
  ends : EndsOutside isSymbolChar text.toList

theorem isMark_iff {text : String} : IsMark text ↔
    text ≠ "" ∧ StartsOutside isSymbolChar text.toList ∧ EndsOutside isSymbolChar text.toList :=
  ⟨fun mark => ⟨mark.nonempty, mark.starts, mark.ends⟩, fun parts => ⟨parts.1, parts.2.1, parts.2.2⟩⟩

instance (text : String) : Decidable (IsMark text) :=
  decidable_of_iff _ isMark_iff.symm

theorem AllSymbols.between {P : String → Prop} {front mark back : String} (all : AllSymbols P front)
    (isMark : IsMark mark) (marks : AllSymbols P mark) (further : AllSymbols P back) :
    AllSymbols P (front ++ mark ++ back) := by
  refine append_of_endsOutside ?_ (all.append_of_startsOutside isMark.starts marks) further
  rw [String.toList_append]
  exact isMark.ends.append _ (by simpa using isMark.nonempty)

end PrismaNest.Text
