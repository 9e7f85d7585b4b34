import PrismaNest.Proofs.Entries
import PrismaNest.Yaml.Token.Lexer

/-! The tokens of a text in brackets.

Inside brackets no block starts or ends, so that a lexer goes from one token to the next whatever
spaces and line feeds stand in between. A key is announced in front of its scalar when the colon
comes: until then it is noted at the depth of its brackets, and forgotten if it gets too long or
crosses a line.
-/

set_option autoImplicit false

namespace PrismaNest.Yaml

/-- Spaces and line feeds. -/
def IsBlank (text : List Char) : Prop :=
  ∀ c ∈ text, c = ' ' ∨ c = '\n'

/-! ### Cursors -/

namespace Cursor

variable {cursor : Cursor} {taken rest : List Char}

theorem rest_step (cursor : Cursor) : cursor.step.rest = cursor.rest.drop 1 := by
  rw [step]
  split
  · rename_i empty
    rw [empty]
    rfl
  · rename_i written
    rw [written]
    split <;> rfl

theorem rest_skip (cursor : Cursor) (count : Nat) :
    (cursor.skip count).rest = cursor.rest.drop count := by
  induction count generalizing cursor with
  | zero => rfl
  | succ count ih => rw [skip, ih, rest_step, List.drop_drop, Nat.add_comm]

theorem skip_skip (cursor : Cursor) (first second : Nat) :
    (cursor.skip first).skip second = cursor.skip (first + second) := by
  induction first generalizing cursor with
  | zero => rw [Nat.zero_add, skip]
  | succ first ih => rw [skip, ih, Nat.succ_add, skip]

-- On one line a cursor counts the characters that it passes.
theorem skip_on_line (written : cursor.rest = taken ++ rest)
    (sameLine : ∀ c ∈ taken, isBreak c = false) :
    (cursor.skip taken.length).index = cursor.index + taken.length ∧
      (cursor.skip taken.length).line = cursor.line := by
  induction taken generalizing cursor with
  | nil => exact ⟨rfl, rfl⟩
  | cons c taken ih =>
    obtain ⟨noBreak, others⟩ := List.forall_mem_cons.mp sameLine
    have stepped : cursor.step.index = cursor.index + 1 ∧ cursor.step.line = cursor.line := by
      rw [step, written, List.cons_append]
      simp only [noBreak, Bool.false_eq_true, ↓reduceIte, and_self]
    have left : cursor.step.rest = taken ++ rest := by
      rw [rest_step, written]
      rfl
    obtain ⟨index, line⟩ := ih left others
    rw [List.length_cons, skip, index, line, stepped.1, stepped.2]
    exact ⟨by omega, rfl⟩

theorem goTo_eq_skip (written : cursor.rest = taken ++ rest) :
    cursor.goTo rest = cursor.skip taken.length := by
  rw [goTo, written, List.length_append, Nat.add_sub_cancel]

theorem rest_goTo (written : cursor.rest = taken ++ rest) : (cursor.goTo rest).rest = rest := by
  rw [goTo_eq_skip written, rest_skip, written, List.drop_left]

end Cursor

theorem gapLength_append {gap : List Char} (blank : IsBlank gap) (rest : List Char) :
    gapLength false (gap ++ rest) = gap.length + gapLength false rest := by
  induction gap with
  | nil => exact (Nat.zero_add _).symm
  | cons c gap ih =>
    obtain ⟨first, others⟩ := List.forall_mem_cons.mp blank
    have counted : gapLength false (c :: (gap ++ rest)) = gapLength false (gap ++ rest) + 1 := by
      rcases first with rfl | rfl <;> rfl
    rw [List.cons_append, counted, ih others, List.length_cons]
    omega

/-- The characters that a token can start with. -/
def opensToken (c : Char) : Bool :=
  c ≠ ' ' && c ≠ '#' && !isBreak c

theorem gapLength_token {gap : List Char} {c : Char} {rest : List Char} (blank : IsBlank gap)
    (opens : opensToken c = true) : gapLength false (gap ++ c :: rest) = gap.length := by
  simp only [opensToken, Bool.and_eq_true, decide_eq_true_eq, Bool.not_eq_true'] at opens
  rw [gapLength_append blank, gapLength]
  simp only [opens, Bool.false_eq_true, ↓reduceIte, Nat.add_zero]

/-! ### Lexers without blocks -/

namespace Lexer

variable {lexer next : Lexer} {gap rest : List Char} {c : Char} {depth : Nat} {token : Token}
  {tokens : List Token}

/-- None of the noted keys must be a key. -/
def Optional (keys : List (Nat × PossibleKey)) : Prop :=
  ∀ entry ∈ keys, entry.2.required = false

/-- No block is open, and no key is required. -/
structure Flat (lexer : Lexer) : Prop where
  indent : lexer.indent = -1
  outer : lexer.outer = []
  optional : Optional lexer.keys

theorem Flat.unwind (flat : lexer.Flat) (column : Int) : lexer.unwind column = lexer := by
  obtain ⟨cursor, tokens, depth, indent, outer, keyAllowed, keys⟩ := lexer
  obtain ⟨rfl, rfl, -⟩ := flat
  rw [Lexer.unwind]
  split
  · rfl
  · simp only [unwindFrom, List.replicate_zero, List.append_nil]

/-- The lexer in front of the next token, with the keys that may still have started. -/
def ready (lexer : Lexer) : Lexer :=
  { lexer.skipGaps with
    keys := lexer.skipGaps.keys.filter fun entry => !lexer.skipGaps.isStale entry.2 }

theorem Flat.forgetStale (flat : lexer.Flat) : lexer.skipGaps.forgetStale = .ok lexer.ready := by
  rw [Lexer.forgetStale, if_neg, ready]
  rw [Bool.not_eq_true, List.any_eq_false]
  intro entry member
  rw [flat.optional entry member, Bool.and_false]
  exact Bool.false_ne_true

theorem Optional.filter {keys : List (Nat × PossibleKey)} (optional : Optional keys)
    (p : Nat × PossibleKey → Bool) : Optional (keys.filter p) :=
  fun entry member => optional entry (List.mem_of_mem_filter member)

theorem Flat.ready (flat : lexer.Flat) : lexer.ready.Flat :=
  ⟨flat.indent, flat.outer, flat.optional.filter _⟩

theorem Flat.forgetKey (flat : lexer.Flat) :
    ∃ keys, Optional keys ∧ lexer.forgetKey = .ok { lexer with keys } := by
  rw [Lexer.forgetKey]
  cases found : lexer.keys.lookup lexer.depth with
  | none => exact ⟨lexer.keys, flat.optional, rfl⟩
  | some key =>
    have optional : key.required = false := flat.optional _ (mem_of_lookup_eq_some found)
    refine ⟨lexer.keys.filter (·.1 ≠ lexer.depth), flat.optional.filter _, ?_⟩
    dsimp only
    rw [optional, if_neg Bool.false_ne_true]

/-- The key that starts where the lexer is. -/
def keyHere (lexer : Lexer) : PossibleKey where
  tokens := lexer.tokens.length
  required := false
  index := lexer.cursor.index
  line := lexer.cursor.line
  column := lexer.cursor.column

theorem Flat.noteKey_allowed (flat : lexer.Flat) (allowed : lexer.keyAllowed = true) :
    ∃ keys, Optional keys ∧
      lexer.noteKey = .ok { lexer with keys := (lexer.depth, lexer.keyHere) :: keys } := by
  obtain ⟨keys, optional, forgotten⟩ := flat.forgetKey
  have apart : (lexer.indent = lexer.cursor.column) = False := by
    rw [flat.indent]
    exact eq_false (by omega)
  refine ⟨keys, optional, ?_⟩
  rw [Lexer.noteKey, if_neg (by simp [allowed]), forgotten]
  simp only [bind, Except.bind, pure, Except.pure, apart, decide_false, Bool.and_false, keyHere]

theorem Flat.noteKey (flat : lexer.Flat) :
    ∃ keys, Optional keys ∧ lexer.noteKey = .ok { lexer with keys } := by
  by_cases allowed : lexer.keyAllowed = true
  · obtain ⟨keys, optional, noted⟩ := flat.noteKey_allowed allowed
    exact ⟨_ :: keys, List.forall_mem_cons.mpr ⟨rfl, optional⟩, noted⟩
  · refine ⟨lexer.keys, flat.optional, ?_⟩
    rw [Lexer.noteKey, if_pos (by simp [allowed])]

/-! ### From one token to the next -/

theorem cursor_ready (written : lexer.cursor.rest = gap ++ c :: rest) (blank : IsBlank gap)
    (opens : opensToken c = true) : lexer.ready.cursor = lexer.cursor.skip gap.length := by
  rw [ready, skipGaps, written, gapLength_token blank opens]

theorem rest_ready (written : lexer.cursor.rest = gap ++ c :: rest) (blank : IsBlank gap)
    (opens : opensToken c = true) : lexer.ready.cursor.rest = c :: rest := by
  rw [cursor_ready written blank opens, Cursor.rest_skip, written, List.drop_left]

theorem keyAllowed_ready (allowed : lexer.keyAllowed = true) : lexer.ready.keyAllowed = true := by
  rw [ready, skipGaps, allowed, Bool.true_or]

theorem Flat.finish_eq (flat : lexer.Flat) (written : lexer.cursor.rest = gap ++ c :: rest)
    (blank : IsBlank gap) (opens : opensToken c = true)
    (taken : lexer.ready.takeToken c rest = .ok next)
    (shorter : next.cursor.rest.length ≤ rest.length) : lexer.finish = next.finish := by
  have fewer : next.cursor.rest.length < lexer.cursor.rest.length := by
    rw [written, List.length_append, List.length_cons]
    omega
  rw [finish, flat.forgetStale]
  dsimp only
  rw [flat.ready.unwind, rest_ready written blank opens]
  dsimp only
  rw [taken]
  dsimp only
  rw [if_pos fewer]

/-- A lexer has come as far as some tokens, and a text is left from the next gap on. -/
structure At (lexer : Lexer) (depth : Nat) (tokens : List Token) (rest : List Char) : Prop where
  flat : lexer.Flat
  depth : lexer.depth = depth
  tokens : lexer.tokens = tokens
  written : ∃ gap, IsBlank gap ∧ lexer.cursor.rest = gap ++ rest

/-- The same where a key may come next. -/
structure AtKey (lexer : Lexer) (depth : Nat) (tokens : List Token) (rest : List Char) : Prop
    extends lexer.At depth tokens rest where
  allowed : lexer.keyAllowed = true

theorem At.skip (before : lexer.At depth tokens (gap ++ rest)) (blank : IsBlank gap) :
    lexer.At depth tokens rest := by
  obtain ⟨flat, deep, spelled, skipped, blankBefore, written⟩ := before
  refine ⟨flat, deep, spelled, skipped ++ gap, ?_, by rw [written, List.append_assoc]⟩
  exact List.forall_mem_append.mpr ⟨blankBefore, blank⟩

/-- A lexer goes on as another one that has come further. -/
def Reaches (lexer : Lexer) (good : Lexer → Prop) : Prop :=
  ∃ next : Lexer, lexer.finish = next.finish ∧ good next

theorem Reaches.bind {good better : Lexer → Prop} (reaches : lexer.Reaches good)
    (further : ∀ next : Lexer, good next → next.Reaches better) : lexer.Reaches better := by
  obtain ⟨next, same, holds⟩ := reaches
  obtain ⟨last, sameStill, holds⟩ := further next holds
  exact ⟨last, same.trans sameStill, holds⟩

theorem Reaches.mono {good better : Lexer → Prop} (reaches : lexer.Reaches good)
    (weaker : ∀ next : Lexer, good next → better next) : lexer.Reaches better := by
  obtain ⟨next, same, holds⟩ := reaches
  exact ⟨next, same, weaker next holds⟩

/-- What is known after a step. -/
structure Stepped (lexer next : Lexer) (depth : Nat) (tokens : List Token) (rest : List Char)
    (allowed : Bool) (keys : List (Nat × PossibleKey)) : Prop extends
    next.At depth tokens rest where
  allowed : next.keyAllowed = allowed
  keys : next.keys = keys
  cursor : next.cursor = lexer.ready.cursor.goTo rest

theorem At.step {keys : List (Nat × PossibleKey)} {taken left : List Char} {spelled : List Token}
    {allowed : Bool} {deep : Nat} (before : lexer.At depth tokens (c :: rest))
    (opens : opensToken c = true) (split : rest = taken ++ left) (optional : Optional keys)
    (step : lexer.ready.takeToken c rest = .ok { lexer.ready with
      cursor := lexer.ready.cursor.goTo left
      tokens := spelled
      depth := deep
      keyAllowed := allowed
      keys }) :
    lexer.Reaches (lexer.Stepped · deep spelled left allowed keys) := by
  obtain ⟨flat, -, -, gap, blank, written⟩ := before
  have gone : (lexer.ready.cursor.goTo left).rest = left := by
    refine @Cursor.rest_goTo _ (c :: taken) _ ?_
    rw [rest_ready written blank opens, split, List.cons_append]
  have shorter : (lexer.ready.cursor.goTo left).rest.length ≤ rest.length := by
    rw [gone, split, List.length_append]
    exact Nat.le_add_left _ _
  refine ⟨_, flat.finish_eq written blank opens step shorter, ⟨⟨?_, ?_, optional⟩, rfl, rfl, ?_⟩,
    rfl, rfl, rfl⟩
  · exact flat.ready.indent
  · exact flat.ready.outer
  · exact ⟨[], nofun, gone⟩

theorem AtKey.skip (before : lexer.AtKey depth tokens (gap ++ rest)) (blank : IsBlank gap) :
    lexer.AtKey depth tokens rest :=
  ⟨before.toAt.skip blank, before.allowed⟩

/-! ### The start and the end -/

theorem atKey_start (noMark : rest.head? ≠ some '\uFEFF') : (start rest).AtKey 0 [] rest := by
  have unmarked : (rest.head? == some '\uFEFF') = false := beq_false_of_ne noMark
  refine ⟨⟨⟨rfl, rfl, nofun⟩, rfl, rfl, [], nofun, ?_⟩, rfl⟩
  rw [start, unmarked, if_neg Bool.false_ne_true, List.nil_append]

theorem At.finish (before : lexer.At depth tokens []) :
    lexer.finish = tokens ++ [.streamEnd] := by
  obtain ⟨flat, -, rfl, gap, blank, written⟩ := before
  have ended : lexer.ready.cursor.rest = [] := by
    have counted : gapLength false lexer.cursor.rest = gap.length := by
      rw [written, gapLength_append blank]
      rfl
    rw [ready, skipGaps, counted, Cursor.rest_skip, written, List.append_nil, List.drop_length]
  obtain ⟨keys, -, forgotten⟩ := flat.ready.forgetKey
  rw [Lexer.finish, flat.forgetStale]
  dsimp only
  rw [flat.ready.unwind, ended]
  dsimp only
  rw [flat.ready.unwind, forgotten]
  rfl

/-! ### Brackets and commas -/

theorem At.openBracket (before : lexer.At depth tokens (c :: rest)) (opens : opensToken c = true)
    (taken : lexer.ready.takeToken c rest = lexer.ready.openBracket token rest) :
    lexer.Reaches (AtKey · (depth + 1) (tokens ++ [token]) rest) := by
  obtain ⟨keys, optional, noted⟩ := before.flat.ready.noteKey
  obtain ⟨rfl, rfl⟩ : lexer.depth = depth ∧ lexer.tokens = tokens := ⟨before.depth, before.tokens⟩
  rw [Lexer.openBracket, noted] at taken
  exact (before.step opens (List.nil_append rest).symm optional taken).mono
    fun next stepped => ⟨stepped.toAt, stepped.allowed⟩

theorem At.closeBracket (before : lexer.At (depth + 1) tokens (c :: rest))
    (opens : opensToken c = true)
    (taken : lexer.ready.takeToken c rest = lexer.ready.closeBracket token rest) :
    lexer.Reaches (At · depth (tokens ++ [token]) rest) := by
  obtain ⟨keys, optional, forgotten⟩ := before.flat.ready.forgetKey
  have deep : lexer.ready.depth = depth + 1 := before.depth
  obtain rfl := before.tokens
  rw [Lexer.closeBracket, forgotten] at taken
  simp only [bind, Except.bind, deep] at taken
  exact (before.step opens (List.nil_append rest).symm optional taken).mono
    fun next stepped => stepped.toAt

theorem At.openSequence (before : lexer.At depth tokens ('[' :: rest)) :
    lexer.Reaches (AtKey · (depth + 1) (tokens ++ [.flowSequenceStart]) rest) :=
  before.openBracket rfl rfl

theorem At.openMapping (before : lexer.At depth tokens ('\x7b' :: rest)) :
    lexer.Reaches (AtKey · (depth + 1) (tokens ++ [.flowMappingStart]) rest) :=
  before.openBracket rfl rfl

theorem At.closeSequence (before : lexer.At (depth + 1) tokens (']' :: rest)) :
    lexer.Reaches (At · depth (tokens ++ [.flowSequenceEnd]) rest) :=
  before.closeBracket rfl rfl

theorem At.closeMapping (before : lexer.At (depth + 1) tokens ('\x7d' :: rest)) :
    lexer.Reaches (At · depth (tokens ++ [.flowMappingEnd]) rest) :=
  before.closeBracket rfl rfl

theorem At.comma (before : lexer.At depth tokens (',' :: rest)) :
    lexer.Reaches (AtKey · depth (tokens ++ [.flowEntry]) rest) := by
  have flat : (lexer.ready.allowKey true).Flat :=
    ⟨before.flat.ready.indent, before.flat.ready.outer, before.flat.ready.optional⟩
  obtain ⟨keys, optional, forgotten⟩ := flat.forgetKey
  obtain ⟨rfl, rfl⟩ : lexer.depth = depth ∧ lexer.tokens = tokens := ⟨before.depth, before.tokens⟩
  have taken : lexer.ready.takeToken ',' rest = lexer.ready.takeFlowEntry rest := rfl
  rw [takeFlowEntry, forgotten] at taken
  exact (before.step rfl (List.nil_append rest).symm optional taken).mono
    fun next stepped => ⟨stepped.toAt, stepped.allowed⟩

/-! ### Quoted scalars and keys -/

theorem At.quoted {chars taken left : List Char} (before : lexer.At depth tokens ('"' :: rest))
    (split : rest = taken ++ left) (read : doubleQuoted rest = .ok (chars, left)) :
    lexer.Reaches (At · depth (tokens ++ [.scalar (String.ofList chars) false]) left) := by
  obtain ⟨keys, optional, noted⟩ := before.flat.ready.noteKey
  obtain ⟨rfl, rfl⟩ : lexer.depth = depth ∧ lexer.tokens = tokens := ⟨before.depth, before.tokens⟩
  have taken : lexer.ready.takeToken '"' rest = lexer.ready.takeQuoted (doubleQuoted rest) := rfl
  rw [takeQuoted, takeKeyLike, noted, read] at taken
  exact (before.step rfl split optional taken).mono fun next stepped => stepped.toAt

theorem takeToken_colon (rest : List Char) (flow : lexer.inFlow = true) :
    lexer.takeToken ':' rest = lexer.takeValue rest := by
  simp [takeToken, flow]

-- The colon comes on the line of the key, and not too late.
theorem not_isStale_keyHere {start : Lexer} {scalar spaces : List Char}
    (written : start.cursor.rest = scalar ++ (spaces ++ ':' :: rest))
    (cursor : lexer.cursor = start.cursor.goTo (spaces ++ ':' :: rest))
    (oneLine : ∀ c ∈ scalar, isBreak c = false) (onlySpaces : ∀ c ∈ spaces, c = ' ')
    (short : scalar.length + spaces.length ≤ 1024) :
    lexer.skipGaps.isStale start.keyHere = false := by
  have before : lexer.cursor.rest = spaces ++ ':' :: rest := by
    rw [cursor, Cursor.rest_goTo written]
  have colon : lexer.skipGaps.cursor = start.cursor.skip (scalar ++ spaces).length := by
    rw [skipGaps, before, gapLength_token (fun c member => .inl (onlySpaces c member)) rfl,
      cursor, Cursor.goTo_eq_skip written, Cursor.skip_skip, List.length_append]
  have allOneLine : ∀ c ∈ scalar ++ spaces, isBreak c = false := by
    refine List.forall_mem_append.mpr ⟨oneLine, fun c member => ?_⟩
    rw [onlySpaces c member]
    rfl
  obtain ⟨index, line⟩ := Cursor.skip_on_line
    (written.trans (List.append_assoc _ _ _).symm) allOneLine
  rw [isStale, colon, index, line]
  simp only [keyHere, bne_self_eq_false, Bool.false_or, decide_eq_false_iff_not, Nat.not_lt,
    Nat.add_sub_cancel_left, List.length_append, short]

/-- When the next token comes, a key is known that has some tokens in front. -/
def Notes (lexer : Lexer) (count : Nat) : Prop :=
  ∃ key, lexer.ready.keys.lookup lexer.ready.depth = some key ∧ key.tokens = count

theorem AtKey.scalar {chars inner spaces : List Char}
    (before : lexer.AtKey depth tokens ('"' :: (inner ++ '"' :: (spaces ++ ':' :: rest))))
    (read : doubleQuoted (inner ++ '"' :: (spaces ++ ':' :: rest)) =
      .ok (chars, spaces ++ ':' :: rest))
    (oneLine : ∀ c ∈ inner, isBreak c = false) (onlySpaces : ∀ c ∈ spaces, c = ' ')
    (short : inner.length + spaces.length + 2 ≤ 1024) :
    lexer.Reaches fun next => next.Notes tokens.length ∧
      next.At depth (tokens ++ [.scalar (String.ofList chars) false]) (':' :: rest) := by
  obtain ⟨keys, optional, noted⟩ :=
    before.flat.ready.noteKey_allowed (keyAllowed_ready before.allowed)
  obtain ⟨gap, blank, written⟩ := before.written
  obtain ⟨rfl, rfl⟩ : lexer.depth = depth ∧ lexer.tokens = tokens := ⟨before.depth, before.tokens⟩
  have split : inner ++ '"' :: (spaces ++ ':' :: rest) =
      (inner ++ ['"']) ++ (spaces ++ ':' :: rest) := by
    simp
  have taken : lexer.ready.takeToken '"' (inner ++ '"' :: (spaces ++ ':' :: rest)) =
    lexer.ready.takeQuoted (doubleQuoted (inner ++ '"' :: (spaces ++ ':' :: rest))) := rfl
  rw [takeQuoted, takeKeyLike, noted, read] at taken
  refine (before.step rfl split (List.forall_mem_cons.mpr ⟨rfl, optional⟩) taken).mono
    fun next stepped => ⟨⟨lexer.ready.keyHere, ?_, rfl⟩, stepped.toAt.skip ?_⟩
  · have start : lexer.ready.cursor.rest =
        ('"' :: (inner ++ ['"'])) ++ (spaces ++ ':' :: rest) := by
      rw [rest_ready written blank rfl, split, List.cons_append]
    have fresh : next.skipGaps.isStale lexer.ready.keyHere = false := by
      refine not_isStale_keyHere start stepped.cursor ?_ onlySpaces ?_
      · exact List.forall_mem_cons.mpr ⟨rfl, List.forall_mem_append.mpr
          ⟨oneLine, List.forall_mem_singleton.mpr rfl⟩⟩
      · simp only [List.length_cons, List.length_append, List.length_nil]
        omega
    have deep : next.ready.depth = lexer.ready.depth := stepped.depth
    have keys : next.skipGaps.keys = (lexer.ready.depth, lexer.ready.keyHere) :: keys := stepped.keys
    have kept : next.ready.keys =
        next.skipGaps.keys.filter fun entry => !next.skipGaps.isStale entry.2 := rfl
    rw [deep, kept, keys, List.filter_cons_of_pos]
    · exact List.lookup_cons_self
    · rwa [Bool.not_eq_true']
  · exact fun c member => .inl (onlySpaces c member)

theorem At.inFlow (before : lexer.At (depth + 1) tokens rest) : lexer.ready.inFlow = true := by
  rw [Lexer.inFlow, show lexer.ready.depth = depth + 1 from before.depth]
  rfl

-- The key is announced in front of its scalar.
theorem At.colon {scalar : Token} (before : lexer.At (depth + 1) (tokens ++ [scalar]) (':' :: rest))
    (notes : lexer.Notes tokens.length) :
    lexer.Reaches (At · (depth + 1) (tokens ++ [.key, scalar, .value]) rest) := by
  obtain ⟨key, found, place⟩ := notes
  have flow := before.inFlow
  have spelled : lexer.ready.tokens = tokens ++ [scalar] := before.tokens
  have announced : (tokens ++ [scalar]).take key.tokens ++ [Token.key] ++
      (tokens ++ [scalar]).drop key.tokens ++ [.value] = tokens ++ [.key, scalar, .value] := by
    simp [place]
  have taken := takeToken_colon rest flow
  rw [takeValue, found] at taken
  simp only [flow, ↓reduceIte] at taken
  rw [← announced, ← spelled]
  exact (before.step rfl (List.nil_append rest).symm (before.flat.ready.optional.filter _) taken).mono
    fun next stepped => before.depth ▸ stepped.toAt

/-- A key on one line that is not too long is read as a key. -/
theorem AtKey.key {chars inner spaces : List Char}
    (before : lexer.AtKey (depth + 1) tokens ('"' :: (inner ++ '"' :: (spaces ++ ':' :: rest))))
    (read : doubleQuoted (inner ++ '"' :: (spaces ++ ':' :: rest)) =
      .ok (chars, spaces ++ ':' :: rest))
    (oneLine : ∀ c ∈ inner, isBreak c = false) (onlySpaces : ∀ c ∈ spaces, c = ' ')
    (short : inner.length + spaces.length + 2 ≤ 1024) :
    lexer.Reaches (At · (depth + 1)
      (tokens ++ [.key, .scalar (String.ofList chars) false, .value]) rest) :=
  (before.scalar read oneLine onlySpaces short).bind fun _ ⟨notes, after⟩ => after.colon notes

end Lexer

end PrismaNest.Yaml
