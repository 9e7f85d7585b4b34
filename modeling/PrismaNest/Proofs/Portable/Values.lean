import PrismaNest.Proofs.Portable.Scalars
import PrismaNest.Proofs.Portable.Tokens
import PrismaNest.Proofs.Text.Absence
import PrismaNest.Proofs.Yaml.Meanings

/-! A portable text stands for the value of its JSON document in YAML.

The induction is on the parts of the text. A scalar without a value is a whole number that is too
long, and then the text has no document either. The text has no character that is refused or changed
before its tokens are sought, and its tokens are those of a tree that stands for the value.
-/

set_option autoImplicit false

namespace PrismaNest

namespace Value

theorem ofEntries_putEntry (name : String) (value : Json) (entries : List (String × Json)) :
    ofEntries (putEntry name value entries) =
      putKey (.text name) (ofJson value) (ofEntries entries) := by
  induction entries with
  | nil => rfl
  | cons entry entries ih =>
    obtain ⟨existing, old⟩ := entry
    have same : (text existing).sameKey (.text name) = decide (existing = name) := rfl
    rw [ofEntries, putKey, putEntry, same]
    by_cases equal : existing = name
    · rw [if_pos equal, if_pos (decide_eq_true equal)]
      rfl
    · rw [if_neg equal, if_neg (by simpa using equal), ofEntries, ih]

theorem ofEntries_putEntries (entries added : List (String × Json)) :
    ofEntries (putEntries entries added) = putKeys (ofEntries entries) (ofEntries added) := by
  induction added generalizing entries with
  | nil => rfl
  | cons entry added ih =>
    rw [ofEntries, putKeys_cons, ← ofEntries_putEntry]
    exact ih _

end Value

namespace Portable

open Yaml (Properties Tree isAllowed scalarValue)

namespace Source

variable {items : List Source} {entries : List (Key × Source)} {source : Source}

theorem trees_eq_map (items : List Source) : trees items = items.map tree := by
  induction items with
  | nil => rfl
  | cons item items ih => rw [trees, ih, List.map_cons]

theorem namedTrees_eq_map (entries : List (Key × Source)) :
    namedTrees entries = entries.map fun entry => (entry.1.name, entry.2.tree) := by
  induction entries with
  | nil => rfl
  | cons entry entries ih => rw [namedTrees, ih, List.map_cons]

theorem documents_eq_none (member : source ∈ items) (none : source.document = none) :
    documents items = .none := by
  induction items with
  | nil => cases member
  | cons item items ih =>
    rw [documents]
    rcases List.mem_cons.mp member with rfl | member
    · rw [none]
      rfl
    · rw [ih member]
      cases item.document <;> rfl

theorem namedDocuments_eq_none {key : Key} (member : (key, source) ∈ entries)
    (none : source.document = none) : namedDocuments entries = .none := by
  induction entries with
  | nil => cases member
  | cons entry entries ih =>
    rw [namedDocuments]
    rcases List.mem_cons.mp member with rfl | member
    · rw [none]
      rfl
    · rw [ih member]
      cases entry.2.document <;> rfl

/-! ### Scalars without values -/

/-- A scalar of a text is read by its tag, or it is a whole number that is too long. -/
def IsReadable (source : Source) (text : String) (plain : Bool) : Prop :=
  (Properties.absent.scalarTag text plain).isOfScalars = true ∧ ∀ fault,
    scalarValue (Properties.absent.scalarTag text plain) text = .error fault →
      source.document = none ∧ ∃ digits, fault = .scalar (.longInteger digits)

theorem isReadable_of_value {text : String} {plain : Bool} (value : Value)
    (fits : (Properties.absent.scalarTag text plain).isOfScalars = true)
    (read : scalarValue (Properties.absent.scalarTag text plain) text = .ok value) :
    source.IsReadable text plain :=
  ⟨fits, fun _ failed => nomatch read.symm.trans failed⟩

theorem isReadable_number (numeral : Numeral) :
    (number numeral).IsReadable (String.ofList numeral.text) true := by
  have tag : Properties.absent.scalarTag (String.ofList numeral.text) true =
      Yaml.Tag.ofPlain (String.ofList numeral.text) := rfl
  constructor
  · rw [tag, numeral.ofPlain_text]
    cases numeral <;> rfl
  · intro fault failed
    have value := numeral.scalarValue_number
    rw [tag] at failed
    split at value
    · cases value.symm.trans failed
    · rename_i faulty
      obtain ⟨digits, value⟩ := value
      cases value.symm.trans failed
      exact ⟨congrArg Except.toOption faulty, digits, rfl⟩

theorem isReadable_of_within {text : String} {plain : Bool}
    (within : Tree.Within (.scalar text plain) source.tree) : source.IsReadable text plain := by
  induction source using Source.induct with
  | null =>
    cases within
    exact isReadable_of_value .null rfl rfl
  | bool flag =>
    cases within
    cases flag
    · exact isReadable_of_value (.bool false) rfl rfl
    · exact isReadable_of_value (.bool true) rfl rfl
  | number numeral =>
    cases within
    exact isReadable_number numeral
  | string pieces =>
    cases within
    exact isReadable_of_value (.text (content pieces)) rfl rfl
  | array inside items ih =>
    rw [tree, trees_eq_map] at within
    cases within with
    | item member within =>
      obtain ⟨item, listed, rfl⟩ := List.mem_map.mp member
      obtain ⟨fits, fails⟩ := ih item listed within
      refine ⟨fits, fun fault failed => ?_⟩
      obtain ⟨none, long⟩ := fails fault failed
      exact ⟨by rw [document, documents_eq_none listed none]; rfl, long⟩
  | object inside entries ih =>
    rw [tree, namedTrees_eq_map] at within
    cases within with
    | value member within =>
      obtain ⟨entry, listed, rfl⟩ := List.mem_map.mp member
      obtain ⟨fits, fails⟩ := ih entry listed within
      refine ⟨fits, fun fault failed => ?_⟩
      obtain ⟨none, long⟩ := fails fault failed
      exact ⟨by rw [document, namedDocuments_eq_none listed none]; rfl, long⟩
  | spaced before source after ih =>
    obtain ⟨fits, fails⟩ := ih within
    exact ⟨fits, fun fault failed => fails fault failed⟩

/-! ### Values -/

/-- What the tree stands for is the value of the document. -/
def Agrees (source : Source) : Prop :=
  ∀ value, source.tree.Means value →
    ∃ document, source.document = some document ∧ Value.ofJson document = value

theorem agrees_scalar {text : String} {plain : Bool} (json : Json)
    (shown : source.tree = .scalar text plain) (document : source.document = some json)
    (read : scalarValue (Properties.absent.scalarTag text plain) text = .ok (Value.ofJson json)) :
    source.Agrees := by
  intro value means
  rw [shown] at means
  cases means with
  | scalar other =>
    cases read.symm.trans other
    exact ⟨json, document, rfl⟩

theorem agrees_number (numeral : Numeral) : (number numeral).Agrees := by
  have value := numeral.scalarValue_number
  cases read : numeral.parts.toJson with
  | ok json =>
    rw [read] at value
    exact agrees_scalar json rfl (congrArg Except.toOption read) value
  | error fault =>
    rw [read] at value
    obtain ⟨digits, failed⟩ := value
    intro value means
    cases means with
    | scalar other => cases failed.symm.trans other

theorem documents_of_means (each : ∀ item ∈ items, item.Agrees) {values : List Value}
    (means : List.Forall₂ Tree.Means (trees items) values) :
    ∃ documents, Source.documents items = some documents ∧ Value.ofItems documents = values := by
  induction items generalizing values with
  | nil =>
    cases means
    exact ⟨[], rfl, rfl⟩
  | cons item items ih =>
    obtain ⟨agrees, others⟩ := List.forall_mem_cons.mp each
    cases means with
    | cons first means =>
      obtain ⟨json, document, rfl⟩ := agrees _ first
      obtain ⟨further, documents, rfl⟩ := ih others means
      exact ⟨json :: further, by rw [Source.documents, document, documents]; rfl, rfl⟩

theorem namedDocuments_of_means (each : ∀ entry ∈ entries, entry.2.Agrees) {values : List Value}
    (means : List.Forall₂ (fun entry value => entry.2.Means value) (namedTrees entries) values) :
    ∃ documents, namedDocuments entries = some documents ∧
      Value.ofEntries documents =
        ((namedTrees entries).map fun entry => .text entry.1).zip values := by
  induction entries generalizing values with
  | nil =>
    cases means
    exact ⟨[], rfl, rfl⟩
  | cons entry entries ih =>
    obtain ⟨agrees, others⟩ := List.forall_mem_cons.mp each
    cases means with
    | cons first means =>
      obtain ⟨json, document, rfl⟩ := agrees _ first
      obtain ⟨further, documents, zipped⟩ := ih others means
      refine ⟨(entry.1.name, json) :: further, by rw [namedDocuments, document, documents]; rfl, ?_⟩
      rw [Value.ofEntries, zipped]
      rfl

theorem agrees (source : Source) : source.Agrees := by
  induction source using Source.induct with
  | null => exact agrees_scalar .null rfl rfl rfl
  | bool flag => exact agrees_scalar (.bool flag) rfl rfl (by cases flag <;> rfl)
  | number numeral => exact agrees_number numeral
  | string pieces => exact agrees_scalar (.string (content pieces)) rfl rfl rfl
  | array inside items ih =>
    intro value means
    cases means with
    | sequence each =>
      obtain ⟨json, documents, rfl⟩ := documents_of_means ih each
      exact ⟨.array json, by rw [document, documents]; rfl, rfl⟩
  | object inside entries ih =>
    intro value means
    cases means with
    | mapping each =>
      obtain ⟨json, documents, zipped⟩ := namedDocuments_of_means ih each
      refine ⟨.object (putEntries [] json), by rw [document, documents]; rfl, ?_⟩
      rw [Value.ofJson, Value.ofEntries_putEntries, zipped]
      rfl
  | spaced before source after ih => exact ih

end Source

/-! ### Characters -/

/-- A character that is read as it is. -/
def isKept (c : Char) : Bool :=
  isAllowed c && c ≠ '\r' && c ≠ '\u0085'

theorem isKept_of_printable {c : Char} (printable : 0x20 ≤ c.toNat ∧ c.toNat ≤ 0x7E) :
    isKept c = true := by
  obtain ⟨low, high⟩ := printable
  have noReturn : c ≠ '\r' := by
    rintro rfl
    exact absurd low (by decide)
  have noNext : c ≠ '\u0085' := by
    rintro rfl
    exact absurd high (by decide)
  simp [isKept, isAllowed, low, high, noReturn, noNext]

theorem Gap.isKept (gap : Gap) : ∀ c ∈ gap.chars, Portable.isKept c = true := by
  intro c member
  rcases gap.blank c member with rfl | rfl <;> rfl

theorem Piece.isKept (piece : Piece) : ∀ c ∈ piece.text, Portable.isKept c = true := by
  cases piece with
  | shown c plain =>
    obtain ⟨⟨⟨⟨⟨printed, allowed⟩, -⟩, noNext⟩, -⟩, -⟩ := isShown_iff.mp plain
    have noReturn : c ≠ '\r' := by
      rintro rfl
      exact absurd printed (by decide)
    refine List.forall_mem_singleton.mpr ?_
    simp [Portable.isKept, allowed, noReturn, noNext]
  | letter mark c meant =>
    refine List.forall_mem_cons.mpr ⟨rfl, List.forall_mem_singleton.mpr ?_⟩
    unfold Json.simpleEscape? at meant
    split at meant
    case h_9 => cases meant
    all_goals rfl
  | code first second third fourth point spelled whole =>
    have digits := (Text.of_digitsValue? spelled).2
    refine List.forall_mem_cons.mpr ⟨rfl, List.forall_mem_cons.mpr ⟨rfl, ?_⟩⟩
    exact fun c member => isKept_of_printable (Text.printable_of_digitValue? (digits c member))

theorem isKept_written (pieces : List Piece) : ∀ c ∈ written pieces, isKept c = true := by
  refine List.forall_mem_cons.mpr ⟨rfl, List.forall_mem_append.mpr ⟨fun c member => ?_,
    List.forall_mem_singleton.mpr rfl⟩⟩
  obtain ⟨piece, -, inside⟩ := List.mem_flatMap.mp member
  exact piece.isKept c inside

theorem Key.isKept (key : Key) : ∀ c ∈ key.text, Portable.isKept c = true := by
  refine List.forall_mem_append.mpr ⟨List.forall_mem_append.mpr ⟨List.forall_mem_append.mpr
    ⟨key.before.isKept, isKept_written key.pieces⟩, ?_⟩, List.forall_mem_singleton.mpr rfl⟩
  intro c member
  rw [List.eq_of_mem_replicate member]
  rfl

namespace Source

variable {items : List Source} {entries : List (Key × Source)}

def IsKept (source : Source) : Prop :=
  ∀ c ∈ source.text, isKept c = true

theorem isKept_furtherItems (each : ∀ item ∈ items, item.IsKept) :
    ∀ c ∈ furtherItems items, isKept c = true := by
  induction items with
  | nil => exact List.forall_mem_singleton.mpr rfl
  | cons item items ih =>
    obtain ⟨first, others⟩ := List.forall_mem_cons.mp each
    rw [furtherItems]
    exact List.forall_mem_cons.mpr ⟨rfl, List.forall_mem_append.mpr ⟨first, ih others⟩⟩

theorem isKept_furtherEntries (each : ∀ entry ∈ entries, entry.2.IsKept) :
    ∀ c ∈ furtherEntries entries, isKept c = true := by
  induction entries with
  | nil => exact List.forall_mem_singleton.mpr rfl
  | cons entry entries ih =>
    obtain ⟨first, others⟩ := List.forall_mem_cons.mp each
    rw [furtherEntries]
    refine List.forall_mem_cons.mpr ⟨rfl, List.forall_mem_append.mpr ⟨?_, ih others⟩⟩
    exact List.forall_mem_append.mpr ⟨entry.1.isKept, first⟩

theorem isKept (source : Source) : source.IsKept := by
  induction source using Source.induct with
  | null => exact List.all_eq_true.mp (by decide)
  | bool flag => cases flag <;> exact List.all_eq_true.mp (by decide)
  | number numeral => exact numeral.isNumeric.all (by decide)
  | string pieces => exact isKept_written pieces
  | array inside items each =>
    cases items with
    | nil =>
      rw [IsKept, text]
      exact List.forall_mem_cons.mpr ⟨rfl, List.forall_mem_append.mpr ⟨inside.isKept,
        List.forall_mem_singleton.mpr rfl⟩⟩
    | cons item items =>
      obtain ⟨first, others⟩ := List.forall_mem_cons.mp each
      rw [IsKept, text]
      refine List.forall_mem_cons.mpr ⟨rfl, List.forall_mem_append.mpr ⟨?_,
        isKept_furtherItems others⟩⟩
      exact List.forall_mem_append.mpr ⟨inside.isKept, first⟩
  | object inside entries each =>
    cases entries with
    | nil =>
      rw [IsKept, text]
      exact List.forall_mem_cons.mpr ⟨rfl, List.forall_mem_append.mpr ⟨inside.isKept,
        List.forall_mem_singleton.mpr rfl⟩⟩
    | cons entry entries =>
      obtain ⟨first, others⟩ := List.forall_mem_cons.mp each
      rw [IsKept, text]
      refine List.forall_mem_cons.mpr ⟨rfl, List.forall_mem_append.mpr ⟨?_,
        isKept_furtherEntries others⟩⟩
      exact List.forall_mem_append.mpr ⟨List.forall_mem_append.mpr ⟨inside.isKept,
        entry.1.isKept⟩, first⟩
  | spaced before source after ih =>
    rw [IsKept, text]
    exact List.forall_mem_append.mpr ⟨List.forall_mem_append.mpr ⟨before.isKept, ih⟩, after.isKept⟩

/-- No character of a text changes when its line ends are read. -/
theorem lineEnds_text (source : Source) : (Text.normalizeLineEnds source.text).map
    (fun c => if c = '\u0085' then '\n' else c) = source.text := by
  have kept : ∀ c ∈ source.text, c ≠ '\r' ∧ c ≠ '\u0085' := by
    intro c member
    have kept := source.isKept c member
    simp only [Portable.isKept, Bool.and_eq_true, decide_eq_true_eq] at kept
    exact ⟨kept.1.2, kept.2⟩
  rw [Text.normalizeLineEnds_eq_self fun member => (kept '\r' member).1 rfl]
  exact (List.map_congr_left fun c member => if_neg (kept c member).2).trans (List.map_id _)

/-- A text that is an object is read as the value of its document, if it has one. -/
theorem read_object (before inside after : Gap) (entries : List (Key × Source)) :
    match (object inside entries).document with
    | some document => Yaml.read (.ofList (spaced before (object inside entries) after).text) =
        .ok (Value.ofJson document)
    | none => ∃ digits, Yaml.read (.ofList (spaced before (object inside entries) after).text) =
        .error (.scalar (.longInteger digits)) := by
  have allowed : (spaced before (object inside entries) after).text.all isAllowed = true := by
    refine List.all_eq_true.mpr fun c member => ?_
    have kept := isKept _ c member
    simp only [Portable.isKept, Bool.and_eq_true] at kept
    exact kept.1.1
  have ends : Yaml.Ends (object inside entries).tree.Means (object inside entries).tree.Fails
      (Yaml.read (.ofList (spaced before (object inside entries) after).text)) := by
    refine Yaml.ends_read ?_ ?_ ?_ fun text plain within => (isReadable_of_within within).1
    all_goals rw [String.toList_ofList]
    · exact allowed
    · exact lineEnds_text _
    · exact tokens_object before inside after entries
  cases read : Yaml.read (.ofList (spaced before (object inside entries) after).text) with
  | ok value =>
    rw [read] at ends
    obtain ⟨document, found, rfl⟩ := agrees _ _ ends
    rw [found]
  | error fault =>
    rw [read] at ends
    obtain ⟨text, plain, within, failed⟩ := ends
    obtain ⟨none, digits, rfl⟩ := (isReadable_of_within within).2 fault failed
    rw [none]
    exact ⟨digits, rfl⟩

end Source

end Portable

end PrismaNest
