import PrismaNest.Proofs.Portable.Lexemes

/-! Portable texts have the tokens of their trees.

The induction is on the parts of a text. Each part leaves the lexer at the comma or the bracket
behind it, where the next part or the end of the whole starts.
-/

set_option autoImplicit false

namespace PrismaNest.Portable

open Yaml (IsBlank Lexer Token Tree endsScalar isWordPart)
open Yaml.Lexer (At AtKey Reaches StartsWord)

variable {lexer : Lexer} {depth : Nat} {tokens : List Token} {rest : List Char}

theorem Gap.isBlank (gap : Gap) : IsBlank gap.chars :=
  gap.blank

namespace Numeral

theorem isWordPart (numeral : Numeral) : ∀ c ∈ numeral.text, isWordPart c = true :=
  numeral.isNumeric.all (by decide)

theorem startsWord (numeral : Numeral) (rest : List Char) : StartsWord (numeral.text ++ rest) := by
  obtain ⟨negative, c, more, written, digit⟩ := numeral.text_start
  rw [written]
  cases negative with
  | true => exact .sign digit
  | false => exact .letter (by simp [Char.isAlphanum, digit])

end Numeral

namespace Source

/-- The tokens of a text come next, wherever it stands in brackets. -/
def IsLexed (source : Source) : Prop :=
  ∀ {lexer : Lexer} {depth : Nat} {tokens : List Token} {gap : List Char} {d : Char}
    {more : List Char}, lexer.At (depth + 1) tokens (source.text ++ (gap ++ d :: more)) →
    IsBlank gap → endsScalar d = true →
      lexer.Reaches (At · (depth + 1) (tokens ++ source.tree.tokens) (d :: more))

/-! ### Parts of arrays -/

variable {items : List Source} {entries : List (Key × Source)}

theorem furtherItems_start (items : List Source) (rest : List Char) :
    ∃ d more, furtherItems items ++ rest = d :: more ∧ endsScalar d = true := by
  cases items with
  | nil => exact ⟨']', rest, by rw [furtherItems]; rfl, rfl⟩
  | cons item items =>
    exact ⟨',', item.text ++ furtherItems items ++ rest, by rw [furtherItems]; rfl, rfl⟩

theorem furtherEntries_start (entries : List (Key × Source)) (rest : List Char) :
    ∃ d more, furtherEntries entries ++ rest = d :: more ∧ endsScalar d = true := by
  cases entries with
  | nil => exact ⟨'\x7d', rest, by rw [furtherEntries]; rfl, rfl⟩
  | cons entry entries =>
    obtain ⟨key, value⟩ := entry
    exact ⟨',', key.text ++ value.text ++ furtherEntries entries ++ rest,
      by rw [furtherEntries]; rfl, rfl⟩

theorem IsLexed.item {source : Source} (isLexed : source.IsLexed)
    (before : lexer.At (depth + 1) tokens (source.text ++ (furtherItems items ++ rest))) :
    lexer.Reaches (At · (depth + 1) (tokens ++ source.tree.tokens) (furtherItems items ++ rest)) := by
  obtain ⟨d, more, split, ends⟩ := furtherItems_start items rest
  rw [split] at before ⊢
  exact @isLexed _ _ _ [] _ _ before nofun ends

theorem reaches_furtherItems (each : ∀ item ∈ items, item.IsLexed)
    (before : lexer.At (depth + 1) tokens (furtherItems items ++ rest)) :
    lexer.Reaches (At · depth (tokens ++ Tree.furtherItems (trees items)) rest) := by
  induction items generalizing lexer tokens with
  | nil =>
    rw [furtherItems] at before
    rw [trees, Tree.furtherItems]
    exact before.closeSequence
  | cons item items ih =>
    obtain ⟨isFirst, others⟩ := List.forall_mem_cons.mp each
    rw [furtherItems, List.cons_append, List.append_assoc] at before
    refine before.comma.bind fun second after => ?_
    refine (isFirst.item after.toAt).bind fun third after => ?_
    rw [trees, Tree.furtherItems]
    simpa using ih others after

theorem reaches_array (inside : Gap) (each : ∀ item ∈ items, item.IsLexed)
    (before : lexer.At depth tokens ((array inside items).text ++ rest)) :
    lexer.Reaches (At · depth (tokens ++ (array inside items).tree.tokens) rest) := by
  cases items with
  | nil =>
    rw [text, List.cons_append, List.append_assoc] at before
    refine before.openSequence.bind fun second after => ?_
    rw [tree, trees, Tree.tokens]
    simpa using (after.toAt.skip inside.isBlank).closeSequence
  | cons item items =>
    obtain ⟨isFirst, others⟩ := List.forall_mem_cons.mp each
    rw [text, List.cons_append, List.append_assoc, List.append_assoc] at before
    refine before.openSequence.bind fun second after => ?_
    refine (isFirst.item (after.toAt.skip inside.isBlank)).bind fun third after => ?_
    rw [tree, trees, Tree.tokens]
    simpa using reaches_furtherItems others after

/-! ### Parts of objects -/

theorem IsLexed.value {source : Source} (isLexed : source.IsLexed)
    (before : lexer.At (depth + 1) tokens (source.text ++ (furtherEntries entries ++ rest))) :
    lexer.Reaches
      (At · (depth + 1) (tokens ++ source.tree.tokens) (furtherEntries entries ++ rest)) := by
  obtain ⟨d, more, split, ends⟩ := furtherEntries_start entries rest
  rw [split] at before ⊢
  exact @isLexed _ _ _ [] _ _ before nofun ends

theorem reaches_key (key : Key) (before : lexer.AtKey (depth + 1) tokens (key.text ++ rest)) :
    lexer.Reaches (At · (depth + 1) (tokens ++ [.key, .scalar key.name false, .value]) rest) := by
  have split : key.text ++ rest = key.before.chars ++ ('"' :: (key.pieces.flatMap Piece.text ++
      '"' :: (List.replicate key.spaces ' ' ++ ':' :: rest))) := by
    simp [Key.text, written]
  rw [split] at before
  refine (before.skip key.before.isBlank).key (doubleQuoted_pieces key.pieces _)
    (oneLine_pieces key.pieces) (fun c member => List.eq_of_mem_replicate member) ?_
  rw [List.length_replicate]
  exact key.short

theorem reaches_entry {key : Key} {source : Source} (isLexed : source.IsLexed)
    (before : lexer.AtKey (depth + 1) tokens
      (key.text ++ (source.text ++ (furtherEntries entries ++ rest)))) :
    lexer.Reaches (At · (depth + 1)
      (tokens ++ [.key, .scalar key.name false, .value] ++ source.tree.tokens)
      (furtherEntries entries ++ rest)) :=
  (reaches_key key before).bind fun _ after => isLexed.value after

theorem reaches_furtherEntries (each : ∀ entry ∈ entries, entry.2.IsLexed)
    (before : lexer.At (depth + 1) tokens (furtherEntries entries ++ rest)) :
    lexer.Reaches (At · depth (tokens ++ Tree.furtherEntries (namedTrees entries)) rest) := by
  induction entries generalizing lexer tokens with
  | nil =>
    rw [furtherEntries] at before
    rw [namedTrees, Tree.furtherEntries]
    exact before.closeMapping
  | cons entry entries ih =>
    obtain ⟨key, value⟩ := entry
    obtain ⟨isFirst, others⟩ := List.forall_mem_cons.mp each
    rw [furtherEntries, List.cons_append, List.append_assoc, List.append_assoc] at before
    refine before.comma.bind fun second after => ?_
    refine (reaches_entry isFirst after).bind fun third after => ?_
    rw [namedTrees, Tree.furtherEntries]
    simpa using ih others after

theorem reaches_object (inside : Gap) (each : ∀ entry ∈ entries, entry.2.IsLexed)
    (before : lexer.At depth tokens ((object inside entries).text ++ rest)) :
    lexer.Reaches (At · depth (tokens ++ (object inside entries).tree.tokens) rest) := by
  cases entries with
  | nil =>
    rw [text, List.cons_append, List.append_assoc] at before
    refine before.openMapping.bind fun second after => ?_
    rw [tree, namedTrees, Tree.tokens]
    simpa using (after.toAt.skip inside.isBlank).closeMapping
  | cons entry entries =>
    obtain ⟨key, value⟩ := entry
    obtain ⟨isFirst, others⟩ := List.forall_mem_cons.mp each
    rw [text, List.cons_append, List.append_assoc, List.append_assoc, List.append_assoc] at before
    refine before.openMapping.bind fun second after => ?_
    refine (reaches_entry isFirst (after.skip inside.isBlank)).bind fun third after => ?_
    rw [tree, namedTrees, Tree.tokens]
    simpa using reaches_furtherEntries others after

/-! ### Whole texts -/

theorem isLexed_word {word : String} (source : Source) (spelled : source.text = word.toList)
    (token : source.tree.tokens = [.scalar word true])
    (letters : ∀ c ∈ word.toList, c.isAlphanum = true) (written : word.toList ≠ []) :
    source.IsLexed := by
  intro lexer depth tokens gap d more before blank ends
  have starts : StartsWord (word.toList ++ (gap ++ d :: more)) := by
    obtain ⟨c, others, split⟩ := List.exists_cons_of_ne_nil written
    rw [split]
    exact .letter (letters c (split ▸ List.mem_cons_self))
  have parts : ∀ c ∈ word.toList, isWordPart c = true := by
    intro c member
    rw [isWordPart, letters c member]
    rfl
  rw [spelled] at before
  have after := before.plain starts parts written blank ends
  rwa [String.ofList_toList, ← token] at after

theorem isLexed (source : Source) : source.IsLexed := by
  induction source using Source.induct with
  | null => exact isLexed_word .null rfl rfl (by simp) (by simp)
  | bool flag =>
    cases flag
    · exact isLexed_word (.bool false) rfl rfl (by simp) (by simp)
    · exact isLexed_word (.bool true) rfl rfl (by simp) (by simp)
  | number numeral =>
    intro lexer depth tokens gap d more before blank ends
    exact before.plain (numeral.startsWord _) numeral.isWordPart
      (List.ne_nil_of_length_pos numeral.length_text_pos) blank ends
  | string pieces =>
    intro lexer depth tokens gap d more before blank ends
    have spelled : (string pieces).text ++ (gap ++ d :: more) =
        '"' :: (pieces.flatMap Piece.text ++ '"' :: (gap ++ d :: more)) := by
      simp [text, written]
    have split : pieces.flatMap Piece.text ++ '"' :: (gap ++ d :: more) =
        (pieces.flatMap Piece.text ++ ['"']) ++ (gap ++ d :: more) := by
      simp
    rw [spelled] at before
    exact (before.quoted split (doubleQuoted_pieces pieces _)).mono fun next after => after.skip blank
  | array inside items each =>
    intro lexer depth tokens gap d more before blank ends
    exact (reaches_array inside each before).mono fun next after => after.skip blank
  | object inside entries each =>
    intro lexer depth tokens gap d more before blank ends
    exact (reaches_object inside each before).mono fun next after => after.skip blank
  | spaced before source after ih =>
    intro lexer depth tokens gap d more here blank ends
    rw [text, List.append_assoc, List.append_assoc, ← List.append_assoc after.chars] at here
    exact ih (here.skip before.isBlank) (List.forall_mem_append.mpr ⟨after.blank, blank⟩) ends

theorem head?_object (before inside after : Gap) (entries : List (Key × Source)) :
    (spaced before (object inside entries) after).text.head? ≠ some '\uFEFF' := by
  rw [text]
  rcases blank : before.chars with _ | ⟨c, gap⟩
  · rcases entries with _ | ⟨⟨key, value⟩, entries⟩
    all_goals
      rw [text]
      simp
  · have first := before.isBlank c (blank ▸ List.mem_cons_self)
    rw [List.cons_append, List.cons_append, List.head?_cons]
    rcases first with rfl | rfl <;> decide

/-- The tokens of a text that is an object are those of its tree. -/
theorem tokens_object (before inside after : Gap) (entries : List (Key × Source)) :
    Yaml.tokens (spaced before (object inside entries) after).text =
      (object inside entries).tree.tokens ++ [.streamEnd] := by
  have start := Yaml.Lexer.atKey_start (head?_object before inside after entries)
  rw [text, List.append_assoc] at start
  obtain ⟨next, same, ended⟩ := reaches_object inside (fun entry _ => isLexed entry.2)
    (start.toAt.skip before.isBlank)
  have last : next.At 0 (object inside entries).tree.tokens [] := by
    rw [← List.append_nil after.chars] at ended
    exact ended.skip after.isBlank
  rw [Yaml.tokens, text, List.append_assoc, same, last.finish]

end Source

end PrismaNest.Portable
