import PrismaNest.Proofs.Blocks.Scan

/-! Which blocks are taken out of a text.

A block stands where its keyword, a header, a body and the closing brace are written and no word goes
on into the keyword. Taking each time the first block that starts at or behind the end of the last one
gives the blocks that the scan finds. This holds of any text, whether or not its blocks are closed.
-/

set_option autoImplicit false

namespace PrismaNest.Block

open Text

/-- A block at its place: where its keyword starts, and where the text goes on behind it. -/
structure Placed where
  start : Nat
  stop : Nat
  block : Block
  deriving DecidableEq, Repr

/-- A block of a keyword is written at some place of a text, with no word character right before it.

Neither blanks nor braces are word characters, so the name is all of the word behind the keyword; and
the body reaches to the first closing brace. -/
def StandsIn (keyword text : List Char) (placed : Placed) : Prop :=
  ∃ before header after, text = before ++ written keyword header placed.block.body ++ after ∧
    EndsOutside isWordChar before ∧ header.name = placed.block.name ∧ '}' ∉ placed.block.body ∧
    placed.start = before.length ∧ placed.stop + after.length = text.length

/-- The blocks that are taken from some place on, one after another. -/
inductive Takes (keyword text : List Char) : Nat → List Placed → Prop where
  | done {place : Nat} (exhausted : ∀ other, StandsIn keyword text other → other.start < place) :
      Takes keyword text place []
  | take {place : Nat} {placed : Placed} {others : List Placed} (stands : StandsIn keyword text placed)
      (ahead : place ≤ placed.start)
      (first : ∀ other, StandsIn keyword text other → place ≤ other.start → placed.start ≤ other.start)
      (further : Takes keyword text placed.stop others) : Takes keyword text place (placed :: others)

variable {keyword text : List Char}

theorem length_written_pos (keyword : List Char) (header : Header) (body : List Char) :
    0 < (written keyword header body).length := by
  rw [written, List.length_append]
  exact Nat.succ_pos _

-- Where a block stands, it is read.
theorem standsIn_iff {front rest : List Char} {placed : Placed} (here : placed.start = front.length) :
    StandsIn keyword (front ++ rest) placed ↔ insideWordAfter false front = false ∧
      ∃ tail, read? keyword rest = some (placed.block, tail) ∧
        placed.stop + tail.length = (front ++ rest).length := by
  rw [insideWordAfter_eq_false_iff]
  constructor
  · rintro ⟨before, header, after, same, outside, named, clear, starts, stops⟩
    rw [List.append_assoc] at same
    obtain ⟨rfl, behind⟩ := List.append_inj same (here.symm.trans starts)
    exact ⟨outside, after, read?_eq_some_iff.mpr ⟨header, named, clear, behind⟩, stops⟩
  · rintro ⟨outside, tail, found, stops⟩
    obtain ⟨header, named, clear, rfl⟩ := read?_eq_some_iff.mp found
    exact ⟨front, header, tail, (List.append_assoc ..).symm, outside, named, clear, here, stops⟩

namespace StandsIn

variable {placed other : Placed}

theorem start_lt_stop (stands : StandsIn keyword text placed) : placed.start < placed.stop := by
  obtain ⟨before, header, after, rfl, -, -, -, starts, stops⟩ := stands
  have inside := length_written_pos keyword header placed.block.body
  rw [List.length_append, List.length_append] at stops
  omega

theorem start_lt_length (stands : StandsIn keyword text placed) : placed.start < text.length := by
  obtain ⟨before, header, after, -, -, -, -, -, stops⟩ := id stands
  have proper := stands.start_lt_stop
  omega

-- At one place of a text stands one block at most.
theorem unique (stands : StandsIn keyword text placed) (also : StandsIn keyword text other)
    (same : placed.start = other.start) : placed = other := by
  obtain ⟨before, header, after, split, -, -, -, starts, -⟩ := id stands
  rw [List.append_assoc] at split
  subst split
  obtain ⟨-, tail, found, stops⟩ := (standsIn_iff starts).mp stands
  obtain ⟨-, otherTail, otherFound, otherStops⟩ := (standsIn_iff (same.symm.trans starts)).mp also
  rw [found, Option.some.injEq, Prod.mk.injEq] at otherFound
  obtain ⟨block, rfl⟩ := otherFound
  obtain ⟨start, stop, _⟩ := placed
  obtain ⟨otherStart, otherStop, _⟩ := other
  dsimp only at same stops otherStops block
  rw [Placed.mk.injEq]
  exact ⟨same, by omega, block⟩

theorem close_not_mem_body (stands : StandsIn keyword text placed) : '}' ∉ placed.block.body := by
  obtain ⟨-, -, -, -, -, -, clear, -⟩ := stands
  exact clear

end StandsIn

namespace Takes

variable {place : Nat} {taken others : List Placed}

-- A place where no block starts is passed.
theorem pass (free : ∀ other, StandsIn keyword text other → other.start ≠ place)
    (later : Takes keyword text (place + 1) taken) : Takes keyword text place taken := by
  cases later with
  | done exhausted =>
    refine .done fun other stands => ?_
    have before := exhausted other stands
    have apart := free other stands
    omega
  | take stands ahead first further =>
    refine .take stands (by omega) (fun other otherStands from_here => ?_) further
    have apart := free other otherStands
    exact first other otherStands (by omega)

theorem unique (takes : Takes keyword text place taken) (also : Takes keyword text place others) :
    taken = others := by
  induction takes generalizing others with
  | done exhausted =>
    cases also with
    | done => rfl
    | take stands ahead =>
      have before := exhausted _ stands
      omega
  | take stands ahead first further ih =>
    cases also with
    | done exhausted =>
      have before := exhausted _ stands
      omega
    | take otherStands otherAhead otherFirst otherFurther =>
      have start := Nat.le_antisymm (first _ otherStands otherAhead) (otherFirst _ stands ahead)
      obtain rfl := stands.unique otherStands start
      rw [ih otherFurther]

theorem stands (takes : Takes keyword text place taken) :
    ∀ placed ∈ taken, StandsIn keyword text placed := by
  induction takes with
  | done => exact fun _ member => nomatch member
  | take stands _ _ _ ih => exact List.forall_mem_cons.mpr ⟨stands, ih⟩

theorem ahead (takes : Takes keyword text place taken) : ∀ placed ∈ taken, place ≤ placed.start := by
  induction takes with
  | done => exact fun _ member => nomatch member
  | take stands ahead _ _ ih =>
    refine List.forall_mem_cons.mpr ⟨ahead, fun placed member => ?_⟩
    have proper := stands.start_lt_stop
    have behind := ih placed member
    omega

-- What is taken comes in the order of the text and does not overlap.
theorem apart (takes : Takes keyword text place taken) :
    taken.Pairwise fun first second => first.stop ≤ second.start := by
  induction takes with
  | done => exact .nil
  | take _ _ _ further ih => exact List.pairwise_cons.mpr ⟨further.ahead, ih⟩

-- Between the blocks that are taken, none begins.
theorem covers (takes : Takes keyword text place taken) {other : Placed}
    (standsIn : StandsIn keyword text other) (inside : place ≤ other.start) :
    ∃ placed ∈ taken, placed.start ≤ other.start ∧ other.start < placed.stop := by
  induction takes with
  | done exhausted =>
    have before := exhausted other standsIn
    omega
  | @take _ placed _ _ _ first _ ih =>
    have starts := first other standsIn inside
    by_cases within : other.start < placed.stop
    · exact ⟨placed, List.mem_cons_self, starts, within⟩
    · obtain ⟨later, member, reaches⟩ := ih (by omega)
      exact ⟨later, List.mem_cons_of_mem _ member, reaches⟩

end Takes

-- The scan goes on at some place of the text, and knows whether a word goes on there.
theorem takes_extractFrom (keyword front rest : List Char) :
    ∃ taken, Takes keyword (front ++ rest) front.length taken ∧
      taken.map Placed.block = extractFrom keyword (insideWordAfter false front) rest := by
  induction size : rest.length using Nat.strong_induction_on generalizing front rest with
  | _ size ih =>
    subst size
    cases rest with
    | nil =>
      refine ⟨[], .done fun other stands => ?_, by rw [extractFrom_nil, List.map_nil]⟩
      simpa using stands.start_lt_length
    | cons c rest =>
      by_cases passes : Passes keyword (insideWordAfter false front) (c :: rest)
      · obtain ⟨taken, takes, blocks⟩ := ih rest.length (by simp) (front ++ [c]) rest rfl
        rw [List.append_assoc, List.singleton_append, List.length_append] at takes
        rw [insideWordAfter_concat] at blocks
        refine ⟨taken, takes.pass fun other stands here => ?_, ?_⟩
        · obtain ⟨outside, tail, found, -⟩ := (standsIn_iff here).mp stands
          rcases passes with inside | unread
          · exact Bool.false_ne_true (outside.symm.trans inside)
          · exact Option.some_ne_none _ (found.symm.trans unread)
        · rw [extractFrom_cons_of_passes passes, blocks]
      · obtain ⟨outside, read⟩ := not_or.mp passes
        rw [Bool.not_eq_true] at outside
        obtain ⟨⟨block, tail⟩, found⟩ := Option.ne_none_iff_exists'.mp read
        obtain ⟨header, -, -, shape⟩ := read?_eq_some_iff.mp found
        -- The block ends in a brace, so that no word goes on behind it.
        have closed : insideWordAfter false (front ++ written keyword header block.body) = false := by
          rw [written, ← List.append_assoc, insideWordAfter_concat]
          decide
        obtain ⟨taken, takes, blocks⟩ := ih tail.length (length_read?_lt found)
          (front ++ written keyword header block.body) tail rfl
        rw [List.append_assoc, ← shape] at takes
        rw [closed] at blocks
        let placed : Placed := ⟨front.length, (front ++ written keyword header block.body).length, block⟩
        have stands : StandsIn keyword (front ++ c :: rest) placed := by
          refine (standsIn_iff rfl).mpr ⟨outside, tail, found, ?_⟩
          rw [shape, ← List.append_assoc]
          exact List.length_append.symm
        refine ⟨placed :: taken, .take stands (Nat.le_refl _) (fun _ _ behind => behind) takes, ?_⟩
        rw [outside, extractFrom_of_read? found, List.map_cons, blocks]

/-- Some blocks are all that is taken out of a text, each time the first one at or behind the end of
the last. They come in the order of the text and do not overlap; no body holds a closing brace, and
every block that stands in the text begins within one of them. -/
def IsTaken (keyword : String) (text : List Char) (blocks : List Block) : Prop :=
  ∃ taken, taken.map Placed.block = blocks ∧
    (∀ others, Takes keyword.toList text 0 others ↔ others = taken) ∧
    (taken.Pairwise fun first second => first.stop ≤ second.start) ∧
    (∀ placed ∈ taken, '}' ∉ placed.block.body) ∧
    ∀ other, StandsIn keyword.toList text other →
      ∃ placed ∈ taken, placed.start ≤ other.start ∧ other.start < placed.stop

theorem isTaken_extract (keyword : String) (text : List Char) :
    IsTaken keyword text (extract keyword text) := by
  obtain ⟨taken, takes, blocks⟩ := takes_extractFrom keyword.toList [] text
  refine ⟨taken, blocks, fun others => ⟨fun also => also.unique takes, ?_⟩, takes.apart,
    fun placed member => (takes.stands placed member).close_not_mem_body,
    fun other stands => takes.covers stands (Nat.zero_le _)⟩
  rintro rfl
  exact takes

/-- The models of a text are the blocks of one keyword, taken from left to right, and its enumerations
those of the other. -/
theorem blocks_leftmost (text : List Char) :
    IsTaken "model" text (models text) ∧ IsTaken "enum" text (enums text) :=
  ⟨isTaken_extract "model" text, isTaken_extract "enum" text⟩

-- A block that is not closed goes on to the next brace, and no block begins in it.
example : models "amodel X \x7b\x7d model A \x7b\n model B\x0b\x7b id Int \x7d model \x7b \x7d".toList =
    [⟨"A".toList, "\n model B\x0b\x7b id Int ".toList⟩] := by
  decide +kernel

end PrismaNest.Block
