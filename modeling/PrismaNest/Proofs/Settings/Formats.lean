import PrismaNest.Proofs.Portable.Documents
import PrismaNest.Proofs.Portable.Values
import PrismaNest.Proofs.Settings.Layers
import PrismaNest.Proofs.Workspace.Reading

/-! Settings in a portable text do not depend on the format of their file.

Whichever reader the name of the file chooses, the entries of the text are the same, and what is done
with them afterwards does not ask for the format. A whole number that is too long fails in both.
-/

set_option autoImplicit false

namespace PrismaNest

open PrismaNest.Action Portable

/-- A failure over data that were read: neither one of the file system nor an unexpected one. -/
def Failure.IsOfData (failure : Failure) : Prop :=
  failure.isOfFiles = false ∧ failure.isUnexpected = false

/-- Both give the same value, or both fail over the data. -/
inductive EndAlike {α : Type} : Except Failure α → Except Failure α → Prop
  | same (value : α) : EndAlike (.ok value) (.ok value)
  | refused {failure other : Failure} (ofData : failure.IsOfData) (alsoOfData : other.IsOfData) :
    EndAlike (.error failure) (.error other)

theorem EndAlike.bind {α β : Type} {first second : Except Failure α}
    {next nextOther : α → Except Failure β} (alike : EndAlike first second)
    (goesOn : ∀ value, EndAlike (next value) (nextOther value)) :
    EndAlike (first.bind next) (second.bind nextOther) := by
  cases alike with
  | same value => exact goesOn value
  | refused ofData alsoOfData => exact .refused ofData alsoOfData

theorem EndAlike.isOk_eq {α : Type} {first second : Except Failure α}
    (alike : EndAlike first second) : first.isOk = second.isOk := by
  cases alike <;> rfl

section
variable {inside : Gap} {entries : List (Key × Source)} {path : Path}

/-- The text of an object, with gaps around it. -/
abbrev Portable.objectText (before inside after : Gap) (entries : List (Key × Source)) : String :=
  .ofList (Source.spaced before (.object inside entries) after).text

/-- A text that is an object stands for these entries. -/
def Portable.Shows (inside : Gap) (entries : List (Key × Source)) (all : SettingsEntries) : Prop :=
  (Source.object inside entries).document.map Value.ofJson = some (.mapping all)

theorem Portable.shows_or_none (inside : Gap) (entries : List (Key × Source)) :
    (∃ all, Shows inside entries all) ∨ (Source.object inside entries).document = none := by
  rw [Source.document]
  cases read : Source.namedDocuments entries with
  | none => exact .inr rfl
  | some documents =>
    refine .inl ⟨Value.ofEntries (putEntries [] documents), ?_⟩
    rw [Shows, Source.document, read]
    rfl

theorem topLevel_json (before after : Gap) (named : path.hasSuffix ".json" = true) :
    (∀ all, Shows inside entries all →
      topLevel path (objectText before inside after entries) = .ok all) ∧
    ((Source.object inside entries).document = none → ∃ digits,
      topLevel path (objectText before inside after entries) = .error (.longInteger digits)) := by
  have read := (Source.spaced before (.object inside entries) after).ofText_text
    (Source.head?_object before inside after entries)
  rw [Source.document] at read
  rw [topLevel, if_pos named, String.toList_ofList]
  constructor
  · intro all shows
    obtain ⟨document, found, mapping⟩ := Option.map_eq_some_iff.mp shows
    rw [found] at read
    simp only [read, mapping]
  · intro none
    rw [none] at read
    obtain ⟨digits, read⟩ := read
    exact ⟨digits, by rw [read]⟩

theorem topLevel_yaml (before after : Gap) (named : path.hasSuffix ".json" = false) :
    (∀ all, Shows inside entries all →
      topLevel path (objectText before inside after entries) = .ok all) ∧
    ((Source.object inside entries).document = none → ∃ digits,
      topLevel path (objectText before inside after entries) =
        .error (.badScalar (.longInteger digits))) := by
  have read := Source.read_object before inside after entries
  rw [topLevel, named, if_neg Bool.false_ne_true]
  constructor
  · intro all shows
    obtain ⟨document, found, mapping⟩ := Option.map_eq_some_iff.mp shows
    rw [found] at read
    simp only [read, mapping]
  · intro none
    rw [none] at read
    obtain ⟨digits, read⟩ := read
    exact ⟨digits, by rw [read]⟩

end

/-! ### What is done with the entries -/

theorem endAlike_settingsAmong (path other : Path) (entries : SettingsEntries) :
    EndAlike (settingsAmong path entries) (settingsAmong other entries) := by
  unfold settingsAmong
  rcases sectionNames.findSome? _ with _ | ⟨key, value⟩
  · exact .same entries
  · cases value
    case mapping inner => exact .same inner
    case enclosing => exact .same entries
    all_goals exact .refused ⟨rfl, rfl⟩ ⟨rfl, rfl⟩

theorem endAlike_ofEntries (entries overrides : SettingsEntries) :
    EndAlike (Settings.ofEntries entries overrides) (Settings.ofEntries entries overrides) := by
  unfold Settings.ofEntries
  cases Settings.shape.ofEntries (mergeOverrides entries overrides) with
  | ok settings => exact .same settings
  | error issues => exact .refused ⟨rfl, rfl⟩ ⟨rfl, rfl⟩

theorem endAlike_settingsOfText (before inside after : Gap) (entries : List (Key × Source))
    {path other : Path} (named : path.hasSuffix ".json" = true)
    (otherwise : other.hasSuffix ".json" = false) :
    EndAlike (settingsOfText path (objectText before inside after entries))
      (settingsOfText other (objectText before inside after entries)) := by
  have tops : EndAlike (topLevel path (objectText before inside after entries))
      (topLevel other (objectText before inside after entries)) := by
    rcases shows_or_none inside entries with ⟨all, shows⟩ | none
    · rw [(topLevel_json before after named).1 all shows,
        (topLevel_yaml before after otherwise).1 all shows]
      exact .same all
    · obtain ⟨digits, first⟩ := (topLevel_json before after named).2 none
      obtain ⟨more, second⟩ := (topLevel_yaml before after otherwise).2 none
      rw [first, second]
      exact .refused ⟨rfl, rfl⟩ ⟨rfl, rfl⟩
  rw [settingsOfText, settingsOfText]
  exact tops.bind (endAlike_settingsAmong path other)

section
variable {given text : String} {workspace : Workspace}

theorem result_loadSettings_held (held : workspace.HoldsText (.ofText given) text) :
    (loadSettings given).result workspace =
      (settingsOfText (.ofText given) (.ofList (Text.normalizeLineEnds text.toList)), workspace) := by
  rw [loadSettings, result_bind, readText_of_read held.noNull held.content]
  dsimp only
  cases settingsOfText (.ofText given) (.ofList (Text.normalizeLineEnds text.toList)) <;> rfl

theorem result_buildSettings_held (held : workspace.HoldsText (.ofText given) text)
    (overrides : SettingsEntries) :
    ((buildSettings (some given) overrides).result workspace).1 =
      (settingsOfText (.ofText given) (.ofList (Text.normalizeLineEnds text.toList))).bind
        fun entries => Settings.ofEntries entries overrides := by
  have loaded := result_loadSettings_held held
  cases chosen : settingsOfText (.ofText given) (.ofList (Text.normalizeLineEnds text.toList)) with
  | ok entries =>
    rw [chosen] at loaded
    exact result_buildSettings loaded overrides
  | error failure =>
    rw [chosen] at loaded
    simp only [buildSettings, result_bind, loaded]
    rfl

end

/-- Settings that stand in a portable text are the same, or are refused, whatever the name of its
file ends in. If the text stands for some entries, then these are what the settings are built from.
Both readers go as deep as a text is nested: a limit on that, such as the depth at which calls of a
reader run out of stack, is left out. -/
theorem buildSettings_portable (before inside after : Gap) (entries : List (Key × Source))
    {text jsonFile otherFile : String} {first second : Workspace}
    (written : Text.normalizeLineEnds text.toList =
      (Source.spaced before (.object inside entries) after).text)
    (held : first.HoldsText (.ofText jsonFile) text)
    (alsoHeld : second.HoldsText (.ofText otherFile) text)
    (named : (Path.ofText jsonFile).hasSuffix ".json" = true)
    (otherwise : (Path.ofText otherFile).hasSuffix ".json" = false) (overrides : SettingsEntries) :
    let fromJson := ((buildSettings (some jsonFile) overrides).result first).1
    let fromYaml := ((buildSettings (some otherFile) overrides).result second).1
    EndAlike fromJson fromYaml ∧ ∀ all, Shows inside entries all →
      fromJson = (settingsAmong (.ofText jsonFile) all).bind (Settings.ofEntries · overrides) ∧
      fromYaml = (settingsAmong (.ofText otherFile) all).bind (Settings.ofEntries · overrides) := by
  intro fromJson fromYaml
  have builtJson : fromJson = _ := result_buildSettings_held held overrides
  have builtYaml : fromYaml = _ := result_buildSettings_held alsoHeld overrides
  rw [written] at builtJson builtYaml
  rw [builtJson, builtYaml]
  refine ⟨?_, fun all shows => ?_⟩
  · exact (endAlike_settingsOfText before inside after entries named otherwise).bind
      fun entries => endAlike_ofEntries entries overrides
  · rw [settingsOfText, settingsOfText, (topLevel_json before after named).1 all shows,
      (topLevel_yaml before after otherwise).1 all shows]
    exact ⟨rfl, rfl⟩

/-- A section with a number in exponential form and an escaped letter, on lines that end in two
characters. -/
theorem buildSettings_portable_section :
    let text := "\x7b\"nestgen\" :\r\n \x7b\"indent_size\": 4.0e+0, " ++
      "\"file_extension\": \".\\u006as\"\x7d\x7d\r\n"
    let workspace : Workspace := ⟨⟨[(["home"], .folder), (["home", "c.json"], .file text.toUTF8),
      (["home", "c.yaml"], .file text.toUTF8)]⟩, ["home"], .zero false, []⟩
    ((buildSettings (some "c.json") []).result workspace).1 =
        .ok { indentSize := 4, fileExtension := "js" } ∧
      ((buildSettings (some "c.yaml") []).result workspace).1 =
        .ok { indentSize := 4, fileExtension := "js" } := by
  intro text workspace
  let shown (chars : List Char) (plain : chars.all isShown = true) : List Portable.Piece :=
    chars.attach.map fun c => .shown c.1 (List.all_eq_true.mp plain c.1 c.2)
  let digits (c : Char) (digit : c.isDigit = true) : Digits :=
    ⟨[c], List.forall_mem_singleton.mpr digit, List.cons_ne_nil c []⟩
  let none : Gap := ⟨[], nofun⟩
  let space : Gap := ⟨[' '], List.forall_mem_singleton.mpr (.inl rfl)⟩
  let feed : Gap := ⟨['\n'], List.forall_mem_singleton.mpr (.inr rfl)⟩
  let four : Numeral := .real false ⟨digits '4' rfl, .inr (by decide)⟩ (digits '0' rfl)
    (some ⟨false, false, digits '0' rfl⟩)
  let js : List Portable.Piece := shown ['.'] rfl ++ .code '0' '0' '6' 'a' 0x6A rfl rfl :: shown ['s'] rfl
  let inner : List (Key × Source) :=
    [(⟨none, shown "indent_size".toList rfl, 0, by decide⟩, .spaced space (.number four) none),
     (⟨space, shown "file_extension".toList rfl, 0, by decide⟩, .spaced space (.string js) none)]
  let entries : List (Key × Source) := [(⟨none, shown "nestgen".toList rfl, 1, by decide⟩,
    .spaced feed (.spaced space (.object none inner) none) none)]
  have written : Text.normalizeLineEnds text.toList =
      (Source.spaced none (.object none entries) feed).text := by
    decide +kernel
  have held : workspace.HoldsText (.ofText "c.json") text := ⟨by decide +kernel, rfl⟩
  have alsoHeld : workspace.HoldsText (.ofText "c.yaml") text := ⟨by decide +kernel, rfl⟩
  have shows : Shows none entries [(.text "nestgen", .mapping
      [(.text "indent_size", .float (.ofDecimal ⟨false, 40, -1⟩)),
       (.text "file_extension", .text ".js")])] :=
    rfl
  obtain ⟨-, built⟩ := buildSettings_portable none none feed entries written held alsoHeld
    (by decide +kernel) (by decide +kernel) []
  obtain ⟨fromJson, fromYaml⟩ := built _ shows
  rw [fromJson, fromYaml]
  exact ⟨rfl, rfl⟩

-- A number with an exponent needs no point to be one in JSON.
theorem ofText_bareExponent : Json.ofText "\x7b\"default_page_size\": 1e2\x7d".toList =
    .ok (.object [("default_page_size", .float (.ofDecimal ⟨false, 1, 2⟩))]) := by
  have number : Json.Takes (Json.readValue ['1', 'e', '2', '\x7d'])
      (.float (.ofDecimal ⟨false, 1, 2⟩)) ['\x7d'] := by
    rw [Json.readValue_eq_readPlain (.inr rfl)]
    exact ⟨_, rfl⟩
  have entries : Json.Takes (Json.readEntries (Json.skipGaps
      (Json.renderString "default_page_size" ++ ':' :: [' ', '1', 'e', '2', '\x7d'])))
      [("default_page_size", .float (.ofDecimal ⟨false, 1, 2⟩))] [] :=
    Json.takes_readEntries number (.closes rfl)
  have taken := Json.takes_readValue_object entries (by decide)
  have written : Json.skipGaps "\x7b\"default_page_size\": 1e2\x7d".toList = '\x7b' ::
      (Json.renderString "default_page_size" ++ ':' :: [' ', '1', 'e', '2', '\x7d']) := by
    decide +kernel
  rw [← written] at taken
  obtain ⟨shorter, read⟩ := taken
  rw [Json.ofText, if_neg (by decide +kernel), read]
  rfl

-- In YAML it is text then. The text is a variable here so that it is not computed with.
theorem read_bareExponent {text : String} (allowed : text.toList.all Yaml.isAllowed = true)
    (kept : (Text.normalizeLineEnds text.toList).map (fun c => if c = '\u0085' then '\n' else c) =
      text.toList)
    (lexed : Yaml.tokens text.toList =
      (Yaml.Tree.mapping [("default_page_size", .scalar "1e2" true)]).tokens ++ [.streamEnd]) :
    Yaml.read text = .ok (.mapping [(.text "default_page_size", .text "1e2")]) := by
  have only : ∀ part plain, Yaml.Tree.Within (.scalar part plain)
      (.mapping [("default_page_size", .scalar "1e2" true)]) → part = "1e2" ∧ plain = true := by
    intro part plain within
    cases within with
    | value member within =>
      cases List.mem_singleton.mp member
      cases within
      exact ⟨rfl, rfl⟩
  have ends := Yaml.ends_read allowed kept lexed fun part plain within => by
    obtain ⟨rfl, rfl⟩ := only part plain within
    rfl
  cases read : Yaml.read text with
  | ok value =>
    rw [read] at ends
    cases ends with
    | mapping each =>
      cases each with
      | cons first others =>
        cases others
        cases first with
        | scalar meant =>
          cases meant
          rfl
  | error fault =>
    rw [read] at ends
    obtain ⟨part, plain, within, failed⟩ := ends
    obtain ⟨rfl, rfl⟩ := only part plain within
    cases failed

/-- A number with an exponent and without a point is a number in one format and text in the other. -/
theorem not_endAlike_exponent :
    let text := "\x7b\"default_page_size\": 1e2\x7d"
    let workspace : Workspace := ⟨⟨[(["home"], .folder), (["home", "c.json"], .file text.toUTF8),
      (["home", "c.yaml"], .file text.toUTF8)]⟩, ["home"], .zero false, []⟩
    let fromJson := ((buildSettings (some "c.json") []).result workspace).1
    let fromYaml := ((buildSettings (some "c.yaml") []).result workspace).1
    fromJson = .ok { defaultPageSize := 100 } ∧ ¬ EndAlike fromJson fromYaml := by
  intro text workspace fromJson fromYaml
  have held : workspace.HoldsText (.ofText "c.json") text := ⟨by decide +kernel, rfl⟩
  have alsoHeld : workspace.HoldsText (.ofText "c.yaml") text := ⟨by decide +kernel, rfl⟩
  have kept : String.ofList (Text.normalizeLineEnds text.toList) = text := by decide +kernel
  have builtJson : fromJson = _ := result_buildSettings_held held []
  have builtYaml : fromYaml = _ := result_buildSettings_held alsoHeld []
  rw [kept] at builtJson builtYaml
  have json : settingsOfText (.ofText "c.json") text =
      .ok [(.text "default_page_size", .float (.ofDecimal ⟨false, 1, 2⟩))] := by
    rw [settingsOfText, topLevel, if_pos (by decide +kernel), ofText_bareExponent]
    rfl
  have yaml : settingsOfText (.ofText "c.yaml") text =
      .ok [(.text "default_page_size", .text "1e2")] := by
    have read := @read_bareExponent text (by decide +kernel) (by decide +kernel) (by decide +kernel)
    rw [settingsOfText, topLevel, if_neg (by decide +kernel), read]
    rfl
  rw [json] at builtJson
  rw [yaml] at builtYaml
  have built : fromJson = .ok { defaultPageSize := 100 } := builtJson
  refine ⟨built, fun alike => ?_⟩
  have outcomes := alike.isOk_eq
  rw [built, builtYaml] at outcomes
  exact absurd outcomes (by decide +kernel)

end PrismaNest
