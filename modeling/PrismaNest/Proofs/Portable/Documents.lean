import PrismaNest.Proofs.Json.Documents
import PrismaNest.Proofs.Portable.Lexemes

/-! Portable texts are read as their JSON documents.

The induction is on the parts of a text, as the reader goes through them. A whole number that is too
long for the reader makes the whole text fail, whatever stands around it: nothing is read behind a
part that has a fault, and what was read in front of it is given up.
-/

set_option autoImplicit false

namespace PrismaNest

namespace Json

/-! ### Faults inside a document -/

variable {text left more body name afterName : List Char} {fault : Fault} {item value : Json}

theorem readItems_fault (faulty : readValue text = .error fault) : readItems text = .error fault := by
  rw [readItems, faulty]

theorem readItems_fault_later (taken : Takes (readValue text) item left)
    (comma : skipGaps left = ',' :: more) (faulty : readItems (skipGaps more) = .error fault) :
    readItems text = .error fault := by
  obtain ⟨shorter, read⟩ := taken
  rw [readItems, read]
  dsimp only
  split
  · rename_i after found
    cases comma.symm.trans found
  · rename_i after found
    cases comma.symm.trans found
    rw [faulty]
  · rename_i _ other
    exact absurd comma (other _)

theorem readEntries_fault (named : Takes (readString ('"' :: body) body) name afterName)
    (colon : skipGaps afterName = ':' :: text) (faulty : readValue (skipGaps text) = .error fault) :
    readEntries ('"' :: body) = .error fault := by
  obtain ⟨shorter, readName⟩ := named
  rw [readEntries, readName]
  dsimp only
  split
  · rename_i after found
    cases colon.symm.trans found
    rw [faulty]
  · rename_i noColon
    exact absurd colon (noColon text)

theorem readEntries_fault_later (named : Takes (readString ('"' :: body) body) name afterName)
    (colon : skipGaps afterName = ':' :: text) (taken : Takes (readValue (skipGaps text)) value left)
    (comma : skipGaps left = ',' :: more) (faulty : readEntries (skipGaps more) = .error fault) :
    readEntries ('"' :: body) = .error fault := by
  obtain ⟨nameEnds, readName⟩ := named
  obtain ⟨shorter, read⟩ := taken
  rw [readEntries, readName]
  dsimp only
  split
  · rename_i after found
    cases colon.symm.trans found
    rw [read]
    dsimp only
    split
    · rename_i after found
      cases comma.symm.trans found
    · rename_i after found
      cases comma.symm.trans found
      rw [faulty]
    · rename_i _ other
      exact absurd comma (other _)
  · rename_i noColon
    exact absurd colon (noColon text)

theorem readValue_array_fault (faulty : readItems (skipGaps text) = .error fault)
    (filled : (skipGaps text).head? ≠ some ']') : readValue ('[' :: text) = .error fault := by
  rw [readValue]
  split
  · rename_i after opened
    simp [opened] at filled
  · rw [faulty]

theorem readValue_object_fault (faulty : readEntries (skipGaps text) = .error fault)
    (filled : (skipGaps text).head? ≠ some '\x7d') : readValue ('\x7b' :: text) = .error fault := by
  rw [readValue]
  split
  · rename_i after opened
    simp [opened] at filled
  · rw [faulty]

end Json

namespace Portable

open Json (Takes Follows Shorter Fault skipGaps readValue readItems readEntries readString goesOn
  skipGaps_eq_self startsOutside_cons)
open Text (StartsOutside dropWhile_run)

variable {text rest more : List Char}

/-! ### Gaps -/

theorem isGap_of_blank {gap : List Char} (blank : ∀ c ∈ gap, c = ' ' ∨ c = '\n') :
    ∀ c ∈ gap, Json.isGap c = true := by
  intro c member
  rcases blank c member with rfl | rfl <;> rfl

theorem Gap.skip (gap : Gap) (text : List Char) : skipGaps (gap.chars ++ text) = skipGaps text := by
  rw [skipGaps, List.dropWhile_append_of_pos (isGap_of_blank gap.blank)]
  rfl

theorem Gap.startsOutside (gap : Gap) (stop : StartsOutside goesOn rest) :
    StartsOutside goesOn (gap.chars ++ rest) := by
  rcases written : gap.chars with _ | ⟨c, chars⟩
  · exact stop
  · refine startsOutside_cons ?_
    rcases gap.blank c (written ▸ List.mem_cons_self) with rfl | rfl <;> rfl

/-! ### Outcomes -/

section
variable {α : Type}

/-- A reader gives a value and leaves some text up to a gap, or meets a number that is too long. -/
def Gives (read : Except Fault (α × Shorter text)) (outcome : Option α) (rest : List Char) : Prop :=
  match outcome with
  | some value => ∃ left, skipGaps left = skipGaps rest ∧ Takes read value left
  | none => ∃ digits, read = .error (.longInteger digits)

end

section
variable {item value : Option Json} {items : Option (List Json)} {left : List Char}
  {entries : Option (List (String × Json))}

theorem Gives.skip {α : Type} {read : Except Fault (α × Shorter text)} {outcome : Option α}
    (gives : Gives read outcome rest) (same : skipGaps rest = skipGaps more) :
    Gives read outcome more := by
  cases outcome with
  | none => exact gives
  | some value =>
    obtain ⟨left, sameLeft, taken⟩ := gives
    exact ⟨left, sameLeft.trans same, taken⟩

theorem gives_of_takes {read : Except Fault (Json × Shorter text)} {value : Json}
    (taken : Takes read value rest) : Gives read (some value) rest :=
  ⟨rest, rfl, taken⟩

theorem gives_lastItem (first : Gives (readValue text) item left)
    (closed : skipGaps left = ']' :: rest) :
    Gives (readItems text) (do return (← item) :: (← some [])) rest := by
  cases item with
  | none =>
    obtain ⟨digits, faulty⟩ := first
    exact ⟨digits, Json.readItems_fault faulty⟩
  | some item =>
    obtain ⟨ended, same, taken⟩ := first
    exact ⟨rest, rfl, Json.takes_readItems taken (.closes (same.trans closed))⟩

theorem gives_moreItems (first : Gives (readValue text) item left)
    (comma : skipGaps left = ',' :: more) (others : Gives (readItems (skipGaps more)) items rest) :
    Gives (readItems text) (do return (← item) :: (← items)) rest := by
  cases item with
  | none =>
    obtain ⟨digits, faulty⟩ := first
    exact ⟨digits, Json.readItems_fault faulty⟩
  | some item =>
    obtain ⟨ended, same, taken⟩ := first
    cases items with
    | none =>
      obtain ⟨digits, faulty⟩ := others
      exact ⟨digits, Json.readItems_fault_later taken (same.trans comma) faulty⟩
    | some items =>
      obtain ⟨last, sameLast, others⟩ := others
      exact ⟨last, sameLast, Json.takes_readItems taken (.goesOn (same.trans comma) others)⟩

/-! ### Keys -/

theorem skipGaps_key (key : Key) (rest : List Char) :
    skipGaps (key.text ++ rest) = '"' :: (key.pieces.flatMap Piece.text ++
      '"' :: (List.replicate key.spaces ' ' ++ ':' :: rest)) := by
  have split : key.text ++ rest = key.before.chars ++ ('"' :: (key.pieces.flatMap Piece.text ++
      '"' :: (List.replicate key.spaces ' ' ++ ':' :: rest))) := by
    simp [Key.text, written]
  rw [split, key.before.skip]
  exact skipGaps_eq_self (startsOutside_cons rfl)

theorem skipGaps_spaces (count : Nat) (rest : List Char) :
    skipGaps (List.replicate count ' ' ++ ':' :: rest) = ':' :: rest := by
  refine dropWhile_run (fun c member => ?_) (startsOutside_cons rfl)
  rw [List.eq_of_mem_replicate member]
  rfl

theorem takes_readString_key (key : Key) (rest opening : List Char) :
    Takes (readString opening (key.pieces.flatMap Piece.text ++
      '"' :: (List.replicate key.spaces ' ' ++ ':' :: rest))) (key.pieces.map Piece.meant)
      (List.replicate key.spaces ' ' ++ ':' :: rest) :=
  takes_readString_pieces key.pieces opening _

theorem gives_lastEntry (key : Key) (first : Gives (readValue (skipGaps text)) value left)
    (closed : skipGaps left = '\x7d' :: rest) :
    Gives (readEntries (skipGaps (key.text ++ text)))
      (do return (key.name, ← value) :: (← some [])) rest := by
  have named := takes_readString_key key text
  have colon := skipGaps_spaces key.spaces text
  rw [skipGaps_key]
  cases value with
  | none =>
    obtain ⟨digits, faulty⟩ := first
    exact ⟨digits, Json.readEntries_fault (named _) colon faulty⟩
  | some value =>
    obtain ⟨ended, same, taken⟩ := first
    exact ⟨rest, rfl,
      Json.takes_readEntries_named (named _) colon taken (.closes (same.trans closed))⟩

theorem gives_moreEntries (key : Key) (first : Gives (readValue (skipGaps text)) value left)
    (comma : skipGaps left = ',' :: more)
    (others : Gives (readEntries (skipGaps more)) entries rest) :
    Gives (readEntries (skipGaps (key.text ++ text)))
      (do return (key.name, ← value) :: (← entries)) rest := by
  have named := takes_readString_key key text
  have colon := skipGaps_spaces key.spaces text
  rw [skipGaps_key]
  cases value with
  | none =>
    obtain ⟨digits, faulty⟩ := first
    exact ⟨digits, Json.readEntries_fault (named _) colon faulty⟩
  | some value =>
    obtain ⟨ended, same, taken⟩ := first
    cases entries with
    | none =>
      obtain ⟨digits, faulty⟩ := others
      exact ⟨digits, Json.readEntries_fault_later (named _) colon taken (same.trans comma) faulty⟩
    | some entries =>
      obtain ⟨last, sameLast, others⟩ := others
      exact ⟨last, sameLast,
        Json.takes_readEntries_named (named _) colon taken (.goesOn (same.trans comma) others)⟩

/-! ### Brackets -/

theorem gives_array (inside : Gives (readItems (skipGaps text)) items rest)
    (filled : (skipGaps text).head? ≠ some ']') :
    Gives (readValue ('[' :: text)) (items.map .array) rest := by
  cases items with
  | none =>
    obtain ⟨digits, faulty⟩ := inside
    exact ⟨digits, Json.readValue_array_fault faulty filled⟩
  | some items =>
    obtain ⟨last, same, taken⟩ := inside
    exact ⟨last, same, Json.takes_readValue_array taken filled⟩

theorem gives_object (inside : Gives (readEntries (skipGaps text)) entries rest)
    (filled : (skipGaps text).head? ≠ some '\x7d') :
    Gives (readValue ('\x7b' :: text))
      (entries.map fun entries => .object (putEntries [] entries)) rest := by
  cases entries with
  | none =>
    obtain ⟨digits, faulty⟩ := inside
    exact ⟨digits, Json.readValue_object_fault faulty filled⟩
  | some entries =>
    obtain ⟨last, same, taken⟩ := inside
    exact ⟨last, same, Json.takes_readValue_object taken filled⟩

end

namespace Source

/-- A text is read as its document wherever it stands. -/
def IsRead (source : Source) : Prop :=
  ∀ {rest : List Char}, StartsOutside goesOn rest →
    Gives (readValue (skipGaps (source.text ++ rest))) source.document rest

/-! ### Where parts start -/

variable {items : List Source} {entries : List (Key × Source)} {source : Source}

theorem text_start (source : Source) (rest : List Char) :
    ∃ c more, skipGaps (source.text ++ rest) = c :: more ∧ Json.opens c = true := by
  have shown : ∀ {c : Char} {more : List Char}, Json.opens c = true → ∃ d others,
      skipGaps (c :: more) = d :: others ∧ Json.opens d = true := by
    intro c more opens
    exact ⟨c, more, skipGaps_eq_self (startsOutside_cons (Json.apart_of_opens opens).1), opens⟩
  induction source using Source.induct generalizing rest with
  | null => exact shown rfl
  | bool flag => cases flag <;> exact shown rfl
  | number numeral =>
    obtain ⟨negative, c, more, written, digit⟩ := numeral.text_start
    rw [text, written]
    cases negative with
    | true => exact shown rfl
    | false => exact shown (by rw [Json.opens, digit, Bool.true_or])
  | string pieces => exact shown rfl
  | array inside items each => cases items <;> rw [text] <;> exact shown rfl
  | object inside entries each =>
    rcases entries with _ | ⟨⟨key, value⟩, entries⟩ <;> rw [text] <;> exact shown rfl
  | spaced before source after ih =>
    rw [text, List.append_assoc, List.append_assoc, before.skip]
    exact ih _

theorem head?_text (source : Source) (rest : List Char) :
    (skipGaps (source.text ++ rest)).head? ≠ some ']' := by
  obtain ⟨c, more, start, opens⟩ := source.text_start rest
  rw [start]
  exact fun same => (Json.apart_of_opens opens).2.1 (Option.some.inj same)

theorem furtherItems_stop (items : List Source) (rest : List Char) :
    StartsOutside goesOn (furtherItems items ++ rest) := by
  cases items <;> rw [furtherItems] <;> exact startsOutside_cons rfl

theorem furtherEntries_stop (entries : List (Key × Source)) (rest : List Char) :
    StartsOutside goesOn (furtherEntries entries ++ rest) := by
  rcases entries with _ | ⟨⟨key, value⟩, entries⟩ <;> rw [furtherEntries] <;>
    exact startsOutside_cons rfl

/-! ### The parts of a text, and the whole -/

theorem gives_readItems {item : Source} (isRead : item.IsRead)
    (each : ∀ item ∈ items, item.IsRead) (rest : List Char) :
    Gives (readItems (skipGaps (item.text ++ (furtherItems items ++ rest))))
      (documents (item :: items)) rest := by
  have first := isRead (furtherItems_stop items rest)
  induction items generalizing item with
  | nil =>
    rw [furtherItems] at first ⊢
    rw [documents, documents]
    exact gives_lastItem first (skipGaps_eq_self (startsOutside_cons rfl))
  | cons second items ih =>
    obtain ⟨isSecond, others⟩ := List.forall_mem_cons.mp each
    have comma : skipGaps (furtherItems (second :: items) ++ rest) =
        ',' :: (second.text ++ (furtherItems items ++ rest)) := by
      rw [furtherItems, List.cons_append, List.append_assoc]
      exact skipGaps_eq_self (startsOutside_cons rfl)
    rw [documents]
    exact gives_moreItems first comma
      (ih isSecond others (isSecond (furtherItems_stop items rest)))

theorem isRead_array (inside : Gap) (each : ∀ item ∈ items, item.IsRead) :
    (array inside items).IsRead := by
  intro rest stop
  cases items with
  | nil =>
    have closed : skipGaps (inside.chars ++ ']' :: rest) = ']' :: rest := by
      rw [inside.skip]
      exact skipGaps_eq_self (startsOutside_cons rfl)
    have taken := Json.takes_readValue_noItems closed
    rw [text, List.cons_append, List.append_assoc, skipGaps_eq_self (startsOutside_cons rfl)]
    exact gives_of_takes taken
  | cons item items =>
    obtain ⟨isFirst, others⟩ := List.forall_mem_cons.mp each
    have parts := gives_readItems isFirst others rest
    have filled := item.head?_text (furtherItems items ++ rest)
    rw [← inside.skip] at parts filled
    rw [text, List.cons_append, List.append_assoc, List.append_assoc,
      skipGaps_eq_self (startsOutside_cons rfl), document]
    exact gives_array parts filled

theorem gives_readEntries {key : Key} {value : Source} (isRead : value.IsRead)
    (each : ∀ entry ∈ entries, entry.2.IsRead) (rest : List Char) :
    Gives (readEntries (skipGaps (key.text ++ (value.text ++ (furtherEntries entries ++ rest)))))
      (namedDocuments ((key, value) :: entries)) rest := by
  have first := isRead (furtherEntries_stop entries rest)
  induction entries generalizing key value with
  | nil =>
    rw [furtherEntries] at first ⊢
    rw [namedDocuments, namedDocuments]
    exact gives_lastEntry key first (skipGaps_eq_self (startsOutside_cons rfl))
  | cons second entries ih =>
    obtain ⟨secondKey, second⟩ := second
    obtain ⟨isSecond, others⟩ := List.forall_mem_cons.mp each
    have comma : skipGaps (furtherEntries ((secondKey, second) :: entries) ++ rest) =
        ',' :: (secondKey.text ++ (second.text ++ (furtherEntries entries ++ rest))) := by
      rw [furtherEntries, List.cons_append, List.append_assoc, List.append_assoc]
      exact skipGaps_eq_self (startsOutside_cons rfl)
    rw [namedDocuments]
    exact gives_moreEntries key first comma
      (ih isSecond others (isSecond (furtherEntries_stop entries rest)))

theorem isRead_object (inside : Gap) (each : ∀ entry ∈ entries, entry.2.IsRead) :
    (object inside entries).IsRead := by
  intro rest stop
  cases entries with
  | nil =>
    have closed : skipGaps (inside.chars ++ '\x7d' :: rest) = '\x7d' :: rest := by
      rw [inside.skip]
      exact skipGaps_eq_self (startsOutside_cons rfl)
    have taken := Json.takes_readValue_noEntries closed
    rw [text, List.cons_append, List.append_assoc, skipGaps_eq_self (startsOutside_cons rfl)]
    exact gives_of_takes taken
  | cons entry entries =>
    obtain ⟨key, value⟩ := entry
    obtain ⟨isFirst, others⟩ := List.forall_mem_cons.mp each
    have parts := @gives_readEntries entries key value isFirst others rest
    have filled : (skipGaps (key.text ++ (value.text ++ (furtherEntries entries ++ rest)))).head? ≠
        some '\x7d' := by
      rw [skipGaps_key]
      exact fun same => absurd (Option.some.inj same) (by decide)
    rw [← inside.skip] at parts filled
    rw [text, List.cons_append, List.append_assoc, List.append_assoc, List.append_assoc,
      skipGaps_eq_self (startsOutside_cons rfl), document]
    exact gives_object parts filled

theorem isRead_word {word : String} {value : Json} (source : Source)
    (listed : (word, value) ∈ Json.words.take 3) (spelled : source.text = word.toList)
    (meant : source.document = some value)
    (noGap : ∀ rest, StartsOutside Json.isGap (word.toList ++ rest)) : source.IsRead := by
  intro rest stop
  rw [spelled, meant, skipGaps_eq_self (noGap rest)]
  exact gives_of_takes (Json.takes_readValue_word listed rest)

theorem longInteger_of_toJson {number : Json.NumberText} {fault : Fault}
    (faulty : number.toJson = .error fault) : ∃ digits, fault = .longInteger digits := by
  rw [Json.NumberText.toJson] at faulty
  split at faulty
  · split at faulty
    · cases faulty
      exact ⟨_, rfl⟩
    · cases faulty
  · cases faulty

theorem isRead_number (numeral : Numeral) : (number numeral).IsRead := by
  intro rest stop
  obtain ⟨c, more, written, first⟩ : ∃ c more, numeral.text ++ rest = c :: more ∧
      (c = '-' ∨ c.isDigit = true) := by
    obtain ⟨negative, d, more, written, digit⟩ := numeral.text_start
    rw [written]
    cases negative with
    | true => exact ⟨'-', _, rfl, .inl rfl⟩
    | false => exact ⟨d, _, rfl, .inr digit⟩
  have noGap : skipGaps (numeral.text ++ rest) = numeral.text ++ rest := by
    have opens : Json.opens c = true := by
      rcases first with rfl | digit
      · rfl
      · rw [Json.opens, digit, Bool.true_or]
    rw [written]
    exact skipGaps_eq_self (startsOutside_cons (Json.apart_of_opens opens).1)
  have plain : readValue (numeral.text ++ rest) = Json.readPlain (numeral.text ++ rest) := by
    rw [written]
    exact Json.readValue_eq_readPlain first more
  obtain ⟨shorter, read⟩ := numeral.readPlain_text stop
  rw [text, document, noGap, plain, read]
  cases value : numeral.parts.toJson with
  | ok value => exact ⟨rest, rfl, shorter, rfl⟩
  | error fault =>
    obtain ⟨digits, rfl⟩ := longInteger_of_toJson value
    exact ⟨digits, rfl⟩

/-- Every portable text is read as its document, wherever it stands. -/
theorem isRead (source : Source) : source.IsRead := by
  induction source using Source.induct with
  | null => exact isRead_word .null (by simp [Json.words]) rfl rfl fun _ => startsOutside_cons rfl
  | bool flag =>
    cases flag with
    | false =>
      exact isRead_word (.bool false) (by simp [Json.words]) rfl rfl fun _ => startsOutside_cons rfl
    | true =>
      exact isRead_word (.bool true) (by simp [Json.words]) rfl rfl fun _ => startsOutside_cons rfl
  | number numeral => exact isRead_number numeral
  | string pieces =>
    intro rest stop
    have spelled : (string pieces).text ++ rest =
        '"' :: (pieces.flatMap Piece.text ++ '"' :: rest) := by
      simp [text, written]
    rw [spelled, skipGaps_eq_self (startsOutside_cons rfl)]
    exact gives_of_takes (Json.takes_readValue_quoted (takes_readString_pieces pieces _ rest))
  | array inside items each => exact isRead_array inside each
  | object inside entries each => exact isRead_object inside each
  | spaced before source after ih =>
    intro rest stop
    rw [text, List.append_assoc, List.append_assoc, before.skip, document]
    exact (ih (after.startsOutside stop)).skip (after.skip rest)

/-! ### Whole documents -/

theorem ofText_text (source : Source) (noMark : source.text.head? ≠ some '\uFEFF') :
    match source.document with
    | some document => Json.ofText source.text = .ok document
    | none => ∃ digits, Json.ofText source.text = .error (.longInteger digits) := by
  have read := @source.isRead [] nofun
  rw [List.append_nil] at read
  rw [Json.ofText, if_neg (by simpa using noMark)]
  cases value : source.document with
  | none =>
    rw [value] at read
    obtain ⟨digits, faulty⟩ := read
    rw [faulty]
    exact ⟨digits, rfl⟩
  | some document =>
    rw [value] at read
    obtain ⟨left, same, shorter, read⟩ := read
    have ended : skipGaps left = [] := same
    rw [read]
    simp only [ended]

end Source

end Portable

end PrismaNest
