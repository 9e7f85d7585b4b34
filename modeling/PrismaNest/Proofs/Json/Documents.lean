import PrismaNest.Proofs.Entries
import PrismaNest.Proofs.Json.Numbers

/-! Documents are read as they were written.

A part of an array or of an object ends where the part ends that it was written from, so that the
comma or the bracket behind it is found. The gaps between the parts are skipped, whatever their
width. An object comes back if no key of it comes twice. Numbers with a fraction stay apart, as
their text names them only up to rounding.
-/

set_option autoImplicit false

namespace PrismaNest.Json

open Text (StartsOutside dropWhile_run dropWhile_of_startsOutside)

variable {text left more rest : List Char} {width level : Nat}

/-- Documents that are given back by reading what was written. -/
inductive Readable : Json → Prop where
  | null : Readable .null
  | bool (flag : Bool) : Readable (.bool flag)
  | int {number : Int} (short : IsShort number) : Readable (.int number)
  | string (text : String) : Readable (.string text)
  | array {items : List Json} (each : ∀ item ∈ items, Readable item) : Readable (.array items)
  | object {entries : List (String × Json)} (single : (entries.map Prod.fst).Nodup)
      (each : ∀ entry ∈ entries, Readable entry.2) : Readable (.object entries)

/-! ### Gaps -/

theorem startsOutside_cons {p : Char → Bool} {c : Char} (other : p c = false) :
    StartsOutside p (c :: text) := by
  intro d first
  cases Option.some.inj first
  exact other

theorem skipGaps_eq_self (start : StartsOutside isGap text) : skipGaps text = text :=
  dropWhile_of_startsOutside start

theorem isGap_of_mem_lineBreak : ∀ c ∈ lineBreak width level, isGap c = true := by
  intro c member
  rcases List.mem_cons.mp member with rfl | member
  · rfl
  · rw [List.eq_of_mem_replicate member]
    rfl

theorem skipGaps_lineBreak (width level : Nat) (start : StartsOutside isGap text) :
    skipGaps (lineBreak width level ++ text) = text :=
  dropWhile_run isGap_of_mem_lineBreak start

theorem length_lt_of_skipGaps {c : Char} (found : skipGaps text = c :: rest) :
    rest.length < text.length := by
  have bound := length_skipGaps_le text
  rw [found, List.length_cons] at bound
  omega

/-! ### Parts inside brackets -/

section
variable {α : Type} {read : (text : List Char) → Except Fault (List α × Shorter text)}
  {closing : Char}

/-- What may follow a part: the bracket that closes the whole, or a comma and further parts. -/
inductive Follows (read : (text : List Char) → Except Fault (List α × Shorter text))
    (closing : Char) (left : List Char) : List α → List Char → Prop where
  | closes {rest : List Char} (closed : skipGaps left = closing :: rest) :
      Follows read closing left [] rest
  | goesOn {more rest : List Char} {parts : List α} (comma : skipGaps left = ',' :: more)
      (others : Takes (read (skipGaps more)) parts rest) : Follows read closing left parts rest

theorem Follows.length_lt {parts : List α} (follows : Follows read closing left parts rest) :
    rest.length < left.length := by
  cases follows with
  | closes closed => exact length_lt_of_skipGaps closed
  | @goesOn more _ _ comma others =>
    obtain ⟨fewer, -⟩ := others
    have gap := length_skipGaps_le more
    have behind := length_lt_of_skipGaps comma
    omega

/-- Something that is written so that it is read as the next part. -/
structure IsPart (read : (text : List Char) → Except Fault (List α × Shorter text))
    (closing : Char) (written : List Char) (part : α) : Prop where
  start : ∃ c more, written = c :: more ∧ isGap c = false ∧ c ≠ closing
  takes : ∀ {left rest : List Char} {others : List α}, StartsOutside goesOn left →
    Follows read closing left others rest → Takes (read (written ++ left)) (part :: others) rest

theorem IsPart.startsOutside {written : List Char} {part : α}
    (isPart : IsPart read closing written part) (left : List Char) :
    StartsOutside isGap (written ++ left) ∧ (written ++ left).head? ≠ some closing := by
  obtain ⟨c, more, rfl, noGap, other⟩ := isPart.start
  exact ⟨startsOutside_cons noGap, fun closed => other (Option.some.inj closed)⟩

/-- The parts after the first, each behind a comma, and the bracket that closes the whole. -/
def furtherParts (width level : Nat) (closing : Char) (parts : List (List Char))
    (rest : List Char) : List Char :=
  parts.flatMap (fun part => ',' :: (lineBreak width (level + 1) ++ part))
    ++ (lineBreak width level ++ closing :: rest)

theorem furtherParts_cons (part : List Char) (parts : List (List Char)) :
    furtherParts width level closing (part :: parts) rest =
      ',' :: (lineBreak width (level + 1) ++ (part ++ furtherParts width level closing parts rest)) := by
  simp [furtherParts]

theorem furtherParts_stop (parts : List (List Char)) :
    StartsOutside goesOn (furtherParts width level closing parts rest) := by
  cases parts <;> exact startsOutside_cons rfl

theorem intercalate_comma (first : List Char) (others : List (List Char)) :
    List.intercalate [','] (first :: others) = first ++ others.flatMap (',' :: ·) := by
  induction others generalizing first with
  | nil => simp
  | cons second others ih => simp [List.intercalate_cons_cons, ih]

theorem renderParts_append (opening : Char) (first : List Char) (others : List (List Char)) :
    renderParts width level opening closing (first :: others) ++ rest =
      opening :: (lineBreak width (level + 1) ++
        (first ++ furtherParts width level closing others rest)) := by
  simp only [renderParts, List.isEmpty_cons, Bool.false_eq_true, ↓reduceIte, List.map_cons,
    intercalate_comma, furtherParts, List.flatMap_map, List.cons_append, List.append_assoc,
    List.nil_append]

-- The last part is followed by the bracket, each other one by a comma and the next part.
theorem takes_parts {written : α → List Char} {first : α} {others : List α}
    (closes : isGap closing = false)
    (each : ∀ part ∈ first :: others, IsPart read closing (written part) part) :
    Takes (read (written first ++ furtherParts width level closing (others.map written) rest))
      (first :: others) rest := by
  induction others generalizing first with
  | nil =>
    exact (each first List.mem_cons_self).takes (furtherParts_stop [])
      (.closes (skipGaps_lineBreak _ _ (startsOutside_cons closes)))
  | cons second others ih =>
    obtain ⟨isFirst, later⟩ := List.forall_mem_cons.mp each
    have start := ((later second List.mem_cons_self).startsOutside
      (furtherParts width level closing (others.map written) rest)).1
    have next := ih later
    rw [← skipGaps_lineBreak width (level + 1) start] at next
    rw [List.map_cons, furtherParts_cons]
    exact isFirst.takes (startsOutside_cons rfl)
      (.goesOn (skipGaps_eq_self (startsOutside_cons rfl)) next)

-- The brackets stand on lines of their own, so the first part comes after a gap.
theorem takes_inside {written : α → List Char} {first : α} {others : List α} (rest : List Char)
    (closes : isGap closing = false)
    (each : ∀ part ∈ first :: others, IsPart read closing (written part) part) :
    let inside := lineBreak width (level + 1) ++
      (written first ++ furtherParts width level closing (others.map written) rest)
    Takes (read (skipGaps inside)) (first :: others) rest ∧
      (skipGaps inside).head? ≠ some closing := by
  intro inside
  obtain ⟨start, filled⟩ := (each first List.mem_cons_self).startsOutside
    (furtherParts width level closing (others.map written) rest)
  rw [skipGaps_lineBreak _ _ start]
  exact ⟨takes_parts closes each, filled⟩

end

/-! ### The rules of the reader -/

variable {items : List Json} {entries : List (String × Json)} {item value : Json}

theorem renderString_append (name : String) :
    renderString name ++ rest = '"' :: (name.toList.flatMap escapeChar ++ '"' :: rest) := by
  simp [renderString]

theorem takes_readValue_quoted {body chars : List Char}
    (taken : Takes (readString ('"' :: body) body) chars rest) :
    Takes (readValue ('"' :: body)) (.string (String.ofList chars)) rest := by
  obtain ⟨shorter, read⟩ := taken
  rw [readValue, read]
  exact ⟨_, rfl⟩

theorem takes_readValue_string (text : String) (rest : List Char) :
    Takes (readValue (renderString text ++ rest)) (.string text) rest := by
  have read := takes_readString (renderString text ++ rest) text.toList rest
  rw [renderString_append] at read ⊢
  have taken := takes_readValue_quoted read
  rwa [String.ofList_toList] at taken

theorem takes_readValue_noItems (closed : skipGaps text = ']' :: rest) :
    Takes (readValue ('[' :: text)) (.array []) rest := by
  have bound := length_lt_of_skipGaps closed
  rw [readValue]
  unfold Takes
  split
  · rename_i after opened
    cases closed.symm.trans opened
    exact ⟨Nat.lt_succ_of_lt bound, rfl⟩
  · rename_i other
    exact absurd closed (other _)

theorem takes_readValue_array (taken : Takes (readItems (skipGaps text)) items rest)
    (filled : (skipGaps text).head? ≠ some ']') :
    Takes (readValue ('[' :: text)) (.array items) rest := by
  obtain ⟨shorter, read⟩ := taken
  have bound : rest.length < ('[' :: text).length :=
    Nat.lt_succ_of_lt (Nat.lt_of_lt_of_le shorter (length_skipGaps_le text))
  rw [readValue]
  unfold Takes
  split
  · rename_i after opened
    simp [opened] at filled
  · rw [read]
    exact ⟨bound, rfl⟩

theorem takes_readValue_noEntries (closed : skipGaps text = '\x7d' :: rest) :
    Takes (readValue ('\x7b' :: text)) (.object []) rest := by
  have bound := length_lt_of_skipGaps closed
  rw [readValue]
  unfold Takes
  split
  · rename_i after opened
    cases closed.symm.trans opened
    exact ⟨Nat.lt_succ_of_lt bound, rfl⟩
  · rename_i other
    exact absurd closed (other _)

theorem takes_readValue_object (taken : Takes (readEntries (skipGaps text)) entries rest)
    (filled : (skipGaps text).head? ≠ some '\x7d') :
    Takes (readValue ('\x7b' :: text)) (.object (putEntries [] entries)) rest := by
  obtain ⟨shorter, read⟩ := taken
  have bound : rest.length < ('\x7b' :: text).length :=
    Nat.lt_succ_of_lt (Nat.lt_of_lt_of_le shorter (length_skipGaps_le text))
  rw [readValue]
  unfold Takes
  split
  · rename_i after opened
    simp [opened] at filled
  · rw [read]
    exact ⟨bound, rfl⟩

theorem takes_readItems {others : List Json} (taken : Takes (readValue text) item left)
    (follows : Follows readItems ']' left others rest) :
    Takes (readItems text) (item :: others) rest := by
  obtain ⟨shorter, read⟩ := taken
  have bound := Nat.lt_trans follows.length_lt shorter
  rw [readItems, read]
  unfold Takes
  dsimp only
  cases follows with
  | closes closed =>
    split
    · rename_i after found
      cases closed.symm.trans found
      exact ⟨bound, rfl⟩
    · rename_i after found
      cases closed.symm.trans found
    · rename_i other _
      exact absurd closed (other _)
  | goesOn comma others =>
    obtain ⟨fewer, readOthers⟩ := others
    split
    · rename_i after found
      cases comma.symm.trans found
    · rename_i after found
      cases comma.symm.trans found
      rw [readOthers]
      exact ⟨bound, rfl⟩
    · rename_i _ other
      exact absurd comma (other _)

theorem takes_readEntries_named {body name afterName : List Char} {others : List (String × Json)}
    (named : Takes (readString ('"' :: body) body) name afterName)
    (colon : skipGaps afterName = ':' :: text) (taken : Takes (readValue (skipGaps text)) value left)
    (follows : Follows readEntries '\x7d' left others rest) :
    Takes (readEntries ('"' :: body)) ((String.ofList name, value) :: others) rest := by
  obtain ⟨shorter, read⟩ := taken
  obtain ⟨nameEnds, readName⟩ := named
  have bound : rest.length < ('"' :: body).length := by
    have closing := follows.length_lt
    have gap := length_skipGaps_le text
    have nameGap := length_lt_of_skipGaps colon
    simp only [List.length_cons]
    omega
  rw [readEntries, readName]
  unfold Takes
  dsimp only
  split
  · rename_i after found
    cases colon.symm.trans found
    rw [read]
    dsimp only
    cases follows with
    | closes closed =>
      split
      · rename_i after found
        cases closed.symm.trans found
        exact ⟨bound, rfl⟩
      · rename_i after found
        cases closed.symm.trans found
      · rename_i other _
        exact absurd closed (other _)
    | goesOn comma others =>
      obtain ⟨fewer, readOthers⟩ := others
      split
      · rename_i after found
        cases comma.symm.trans found
      · rename_i after found
        cases comma.symm.trans found
        rw [readOthers]
        exact ⟨bound, rfl⟩
      · rename_i _ other
        exact absurd comma (other _)
  · rename_i noColon
    exact absurd colon (noColon text)

theorem takes_readEntries {name : String} {others : List (String × Json)}
    (taken : Takes (readValue (skipGaps text)) value left)
    (follows : Follows readEntries '\x7d' left others rest) :
    Takes (readEntries (renderString name ++ ':' :: text)) ((name, value) :: others) rest := by
  have named := takes_readString (renderString name ++ ':' :: text) name.toList (':' :: text)
  rw [renderString_append] at named ⊢
  have taken := takes_readEntries_named named rfl taken follows
  rwa [String.ofList_toList] at taken

theorem takes_readValue_word {word : String} (listed : (word, value) ∈ words.take 3)
    (rest : List Char) : Takes (readValue (word.toList ++ rest)) value rest := by
  have known : word = "null" ∧ value = .null ∨ word = "true" ∧ value = .bool true ∨
      word = "false" ∧ value = .bool false := by
    simpa [words] using listed
  rcases known with ⟨rfl, rfl⟩ | ⟨rfl, rfl⟩ | ⟨rfl, rfl⟩
  all_goals
    change Takes (readValue (_ :: _)) _ _
    rw [readValue]
    · exact ⟨_, rfl⟩
    all_goals
      intro _ same
      cases same

-- What opens no string and no bracket is a word or a number.
theorem readValue_eq_readPlain {c : Char} (first : c = '-' ∨ c.isDigit = true) (rest : List Char) :
    readValue (c :: rest) = readPlain (c :: rest) := by
  rw [readValue]
  all_goals
    rintro _ ⟨rfl, -⟩
    exact absurd first (by decide)

theorem takes_readValue_int {number : Int} (short : IsShort number)
    (stop : StartsOutside goesOn rest) :
    Takes (readValue ((toString number).toList ++ rest)) (.int number) rest := by
  obtain ⟨c, more, written, start⟩ := signed_start (number < 0) number.natAbs
  have taken := takes_readPlain_int short stop
  rw [toList_toString, written, List.cons_append] at taken ⊢
  rwa [readValue_eq_readPlain start]

/-! ### Documents -/

section
variable {document : Json}

def renderEntry (width level : Nat) (entry : String × Json) : List Char :=
  renderString entry.1 ++ ':' :: ' ' :: renderAt width level entry.2

theorem renderItems_eq_map (items : List Json) :
    renderItems width level items = items.map (renderAt width level) := by
  induction items with
  | nil => rfl
  | cons item items ih => rw [renderItems, ih, List.map_cons]

theorem renderEntries_eq_map (entries : List (String × Json)) :
    renderEntries width level entries = entries.map (renderEntry width level) := by
  induction entries with
  | nil => rfl
  | cons entry entries ih => rw [renderEntries, ih, List.map_cons, renderEntry]

/-- The characters that a document can start with. -/
def opens (c : Char) : Bool :=
  c.isDigit || c ∈ ['"', '[', '\x7b', '-', 'n', 't', 'f']

theorem apart_of_opens {c : Char} (first : opens c = true) :
    isGap c = false ∧ c ≠ ']' ∧ c ≠ '\uFEFF' := by
  refine ⟨?_, ?_, ?_⟩
  · cases gap : isGap c with
    | false => rfl
    | true =>
      simp only [isGap, Bool.or_eq_true, decide_eq_true_eq] at gap
      obtain ((rfl | rfl) | rfl) | rfl := gap <;> exact absurd first (by decide)
  all_goals
    rintro rfl
    exact absurd first (by decide)

theorem Readable.start (readable : Readable document) (width level : Nat) :
    ∃ c more, renderAt width level document = c :: more ∧ opens c = true := by
  cases readable with
  | null => exact ⟨_, _, rfl, rfl⟩
  | bool flag => cases flag <;> exact ⟨_, _, rfl, rfl⟩
  | int short =>
    rename_i number
    obtain ⟨c, more, written, first⟩ := signed_start (number < 0) number.natAbs
    refine ⟨c, more, (toList_toString number).trans written, ?_⟩
    rcases first with rfl | digit
    · rfl
    · rw [opens, digit, Bool.true_or]
  | string text => exact ⟨_, _, rfl, rfl⟩
  | array each =>
    rw [renderAt, renderParts]
    split <;> exact ⟨_, _, rfl, rfl⟩
  | object single each =>
    rw [renderAt, renderParts]
    split <;> exact ⟨_, _, rfl, rfl⟩

theorem skipGaps_renderAt (readable : Readable document) :
    skipGaps (renderAt width level document ++ rest) = renderAt width level document ++ rest := by
  obtain ⟨c, more, written, first⟩ := readable.start width level
  rw [written]
  exact skipGaps_eq_self (startsOutside_cons (apart_of_opens first).1)

theorem isPart_item (readable : Readable item)
    (taken : ∀ {left : List Char}, StartsOutside goesOn left →
      Takes (readValue (renderAt width level item ++ left)) item left) :
    IsPart readItems ']' (renderAt width level item) item where
  start := by
    obtain ⟨c, more, written, first⟩ := readable.start width level
    obtain ⟨noGap, other, -⟩ := apart_of_opens first
    exact ⟨c, more, written, noGap, other⟩
  takes := fun stop => takes_readItems (taken stop)

theorem isPart_entry {entry : String × Json} (readable : Readable entry.2)
    (taken : ∀ {left : List Char}, StartsOutside goesOn left →
      Takes (readValue (renderAt width level entry.2 ++ left)) entry.2 left) :
    IsPart readEntries '\x7d' (renderEntry width level entry) entry where
  start := ⟨_, _, rfl, rfl, by decide⟩
  takes := by
    intro left rest others stop follows
    have value := taken stop
    have gap : skipGaps (' ' :: (renderAt width level entry.2 ++ left)) =
        renderAt width level entry.2 ++ left := skipGaps_renderAt readable
    rw [← gap] at value
    have written : renderEntry width level entry ++ left = renderString entry.1 ++
        ':' :: ' ' :: (renderAt width level entry.2 ++ left) := by
      simp [renderEntry]
    rw [written]
    exact takes_readEntries value follows

/-- Wherever a document is written, it is read there, and what follows is left. -/
theorem Readable.takes (readable : Readable document) (stop : StartsOutside goesOn rest) :
    Takes (readValue (renderAt width level document ++ rest)) document rest := by
  induction readable generalizing level rest with
  | null => exact takes_readValue_word (by simp [words]) rest
  | bool flag =>
    cases flag with
    | true => exact takes_readValue_word (by simp [words]) rest
    | false => exact takes_readValue_word (by simp [words]) rest
  | int short => exact takes_readValue_int short stop
  | string text => exact takes_readValue_string text rest
  | array each ih =>
    rename_i items
    rw [renderAt, renderItems_eq_map]
    cases items with
    | nil => exact takes_readValue_noItems rfl
    | cons first others =>
      have parts : ∀ item ∈ first :: others,
          IsPart readItems ']' (renderAt width (level + 1) item) item := fun item member =>
        isPart_item (each item member) (ih item member)
      obtain ⟨taken, filled⟩ := takes_inside rest rfl parts
      rw [List.map_cons, renderParts_append]
      exact takes_readValue_array taken filled
  | object single each ih =>
    rename_i entries
    rw [renderAt, renderEntries_eq_map]
    cases entries with
    | nil => exact takes_readValue_noEntries rfl
    | cons first others =>
      have parts : ∀ entry ∈ first :: others,
          IsPart readEntries '\x7d' (renderEntry width (level + 1) entry) entry :=
        fun entry member => isPart_entry (each entry member) (ih entry member)
      obtain ⟨taken, filled⟩ := takes_inside rest rfl parts
      have same : putEntries [] (first :: others) = first :: others :=
        putEntries_of_fresh single (fun _ _ => List.not_mem_nil)
      have whole := takes_readValue_object taken filled
      rw [same] at whole
      rw [List.map_cons, renderParts_append]
      exact whole

/-- The text of a document, with a line end behind it, gives the document back. -/
theorem ofText_render (readable : Readable document) (width : Nat) :
    ofText (render width document ++ "\n").toList = .ok document := by
  have written : (render width document ++ "\n").toList = renderAt width 0 document ++ ['\n'] := by
    simp [render]
  obtain ⟨c, more, start, first⟩ := readable.start width 0
  have noMark : ¬ ((renderAt width 0 document ++ ['\n']).head? == some '\uFEFF') = true := by
    rw [start]
    simpa using (apart_of_opens first).2.2
  have taken : Takes (readValue (renderAt width 0 document ++ ['\n'])) document ['\n'] :=
    readable.takes (startsOutside_cons rfl)
  rw [← skipGaps_renderAt readable] at taken
  obtain ⟨shorter, read⟩ := taken
  rw [written, ofText, if_neg noMark, read]
  rfl

/-! ### Line ends -/

theorem no_return_escapeChar (c : Char) : '\r' ∉ escapeChar c := by
  by_cases short : c ∈ shortEscapes.map Prod.fst
  · obtain ⟨⟨_, letter⟩, listed, rfl⟩ := List.mem_map.mp short
    have letters : ∀ escape ∈ shortEscapes, escape.2 ≠ '\r' := by decide
    rw [(escapeChar_short _ listed).1]
    simpa using (letters _ listed).symm
  · have spelled : ∀ code < 0x20, '\r' ∉ Text.hexPadded 4 code := by decide
    rw [escapeChar_other short]
    split
    · rename_i control
      simpa using spelled c.toNat control
    · simp only [shortEscapes, List.map_cons, List.mem_cons, not_or] at short
      simpa using Ne.symm short.2.2.2.1

theorem no_return_renderString (text : String) : '\r' ∉ renderString text := by
  simp [renderString, no_return_escapeChar]

theorem no_return_lineBreak : '\r' ∉ lineBreak width level := by
  simp [lineBreak]

theorem no_return_renderParts {opening closing : Char} {parts : List (List Char)}
    (opened : '\r' ≠ opening) (closed : '\r' ≠ closing) (each : ∀ part ∈ parts, '\r' ∉ part) :
    '\r' ∉ renderParts width level opening closing parts := by
  cases parts with
  | nil => simp [renderParts, opened, closed]
  | cons first others =>
    rw [← List.append_nil (renderParts _ _ _ _ _), renderParts_append]
    obtain ⟨noFirst, noOther⟩ := List.forall_mem_cons.mp each
    simpa [furtherParts, no_return_lineBreak, opened, closed, noFirst] using noOther

/-- No carriage return stands in the text of a document, so that nothing in it is taken for a line
end of another kind. -/
theorem Readable.no_return (readable : Readable document) :
    '\r' ∉ renderAt width level document := by
  induction readable generalizing level with
  | null => simp [renderAt]
  | bool flag => cases flag <;> simp [renderAt]
  | int short =>
    rename_i number
    rw [renderAt, toList_toString]
    intro member
    rcases List.mem_append.mp member with sign | digit
    · split at sign
      · exact absurd (List.mem_singleton.mp sign) (by decide)
      · exact List.not_mem_nil sign
    · exact absurd (Text.isDigit_of_mem_toDigits _ digit) (by decide)
  | string text => exact no_return_renderString text
  | array each ih =>
    rw [renderAt, renderItems_eq_map]
    refine no_return_renderParts (by decide) (by decide) fun part member => ?_
    obtain ⟨item, listed, rfl⟩ := List.mem_map.mp member
    exact ih item listed
  | object single each ih =>
    rw [renderAt, renderEntries_eq_map]
    refine no_return_renderParts (by decide) (by decide) fun part member => ?_
    obtain ⟨entry, listed, rfl⟩ := List.mem_map.mp member
    simpa [renderEntry, no_return_renderString] using ih entry listed

end

end PrismaNest.Json
