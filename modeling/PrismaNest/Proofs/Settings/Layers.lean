import PrismaNest.Command.Generate
import PrismaNest.Proofs.Settings.Documents
import PrismaNest.Proofs.Settings.Merging
import PrismaNest.Proofs.Settings.Validity
import PrismaNest.Proofs.Validation.Taking
import PrismaNest.Proofs.Workspace.Actions

/-! Settings in layers.

The value of a setting comes from the overrides, from the file below them, or from the defaults. Only
the value that wins is looked at, so one that is overridden does no harm, whatever it is. The options
of the command are overrides; one that is not given leaves its setting to the file.
-/

set_option autoImplicit false

namespace PrismaNest

open PrismaNest.Action

namespace Settings

open Shape (Takes readOr)

variable {values : String → Option Value} {settings : Settings}

theorem explains_readExtension : Explains readExtension := by
  intro value refused
  rw [readExtension] at refused
  split at refused
  · rename_i issues given
    cases refused
    exact Value.explains_readNonemptyText value given
  · dsimp only at refused
    split at refused <;> cases refused

theorem explains_readExclusions : Explains readExclusions := by
  intro value refused
  rw [readExclusions] at refused
  cases given : value.readList Value.readText with
  | error issues =>
    rw [given] at refused
    cases refused
    exact Value.explains_readList Value.explains_readText value given
  | ok names =>
    rw [given] at refused
    cases refused

theorem slots_optional : ∀ slot ∈ slots, slot.Optional := by
  have truth : Explains Value.readTruth := Value.explains_readTruth
  have filled : Explains Value.readNonemptyText := Value.explains_readNonemptyText
  simp only [slots, List.forall_mem_cons, List.not_mem_nil, IsEmpty.forall_iff, implies_true, and_true]
  exact ⟨.of _ Value.explains_readText _, .of _ Value.explains_readText _,
    .of _ explains_readExtension _, .of _ truth _, .of _ explains_readExclusions _, .of _ truth _,
    .of _ truth _, .of _ filled _, .of _ filled _, .of _ filled _, .of _ filled _, .of _ filled _,
    .of _ truth _, .of _ (Value.explains_readBounded 1 1000) _,
    .of _ (Value.explains_readBounded 2 8) _, .of _ truth _⟩

/-- Each setting is what is read from the value of its name, or its default. -/
structure TakenFrom (values : String → Option Value) (settings : Settings) : Prop where
  schemaPath : readOr values "schema_path" "prisma/schema.prisma" Value.readText =
    .ok settings.schemaPath
  outputDir : readOr values "output_dir" "generated" Value.readText = .ok settings.outputDir
  fileExtension : readOr values "file_extension" "ts" readExtension = .ok settings.fileExtension
  firstModelOnly : readOr values "first_model_only" false Value.readTruth =
    .ok settings.firstModelOnly
  excludedFields : readOr values "excluded_fields" ["id", "createdAt", "updatedAt"] readExclusions =
    .ok settings.excludedFields
  enableSwagger : readOr values "enable_swagger" true Value.readTruth = .ok settings.enableSwagger
  enableGuards : readOr values "enable_guards" true Value.readTruth = .ok settings.enableGuards
  guardName : readOr values "guard_name" "JwtAuthGuard" Value.readNonemptyText =
    .ok settings.guardName
  guardImport : readOr values "guard_import" "../auth/jwt-auth.guard" Value.readNonemptyText =
    .ok settings.guardImport
  prismaServiceImport : readOr values "prisma_service_import" "../prisma/prisma.service"
    Value.readNonemptyText = .ok settings.prismaServiceImport
  enumImport : readOr values "enum_import" "@prisma/client" Value.readNonemptyText =
    .ok settings.enumImport
  baseQueryImport : readOr values "base_query_import" "../../common/dto/base-query.dto"
    Value.readNonemptyText = .ok settings.baseQueryImport
  generateCommon : readOr values "generate_common" true Value.readTruth =
    .ok settings.generateCommon
  defaultPageSize : readOr values "default_page_size" 10 (Value.readBounded 1 1000) =
    .ok settings.defaultPageSize
  indentSize : readOr values "indent_size" 2 (Value.readBounded 2 8) = .ok settings.indentSize
  writeManifest : readOr values "write_manifest" false Value.readTruth = .ok settings.writeManifest

theorem takes_slots_iff : Takes values slots shape.blank settings ↔ settings.TakenFrom values := by
  constructor
  · intro taken
    obtain ⟨_, schemaPath, taken⟩ := taken.of_cons rfl
    obtain ⟨_, outputDir, taken⟩ := taken.of_cons rfl
    obtain ⟨_, fileExtension, taken⟩ := taken.of_cons rfl
    obtain ⟨_, firstModelOnly, taken⟩ := taken.of_cons rfl
    obtain ⟨_, excludedFields, taken⟩ := taken.of_cons rfl
    obtain ⟨_, enableSwagger, taken⟩ := taken.of_cons rfl
    obtain ⟨_, enableGuards, taken⟩ := taken.of_cons rfl
    obtain ⟨_, guardName, taken⟩ := taken.of_cons rfl
    obtain ⟨_, guardImport, taken⟩ := taken.of_cons rfl
    obtain ⟨_, prismaServiceImport, taken⟩ := taken.of_cons rfl
    obtain ⟨_, enumImport, taken⟩ := taken.of_cons rfl
    obtain ⟨_, baseQueryImport, taken⟩ := taken.of_cons rfl
    obtain ⟨_, generateCommon, taken⟩ := taken.of_cons rfl
    obtain ⟨_, defaultPageSize, taken⟩ := taken.of_cons rfl
    obtain ⟨_, indentSize, taken⟩ := taken.of_cons rfl
    obtain ⟨_, writeManifest, taken⟩ := taken.of_cons rfl
    cases taken
    exact { schemaPath, outputDir, fileExtension, firstModelOnly, excludedFields, enableSwagger,
            enableGuards, guardName, guardImport, prismaServiceImport, enumImport, baseQueryImport,
            generateCommon, defaultPageSize, indentSize, writeManifest }
  · intro taken
    refine .cons_of taken.schemaPath rfl ?_
    refine .cons_of taken.outputDir rfl ?_
    refine .cons_of taken.fileExtension rfl ?_
    refine .cons_of taken.firstModelOnly rfl ?_
    refine .cons_of taken.excludedFields rfl ?_
    refine .cons_of taken.enableSwagger rfl ?_
    refine .cons_of taken.enableGuards rfl ?_
    refine .cons_of taken.guardName rfl ?_
    refine .cons_of taken.guardImport rfl ?_
    refine .cons_of taken.prismaServiceImport rfl ?_
    refine .cons_of taken.enumImport rfl ?_
    refine .cons_of taken.baseQueryImport rfl ?_
    refine .cons_of taken.generateCommon rfl ?_
    refine .cons_of taken.defaultPageSize rfl ?_
    refine .cons_of taken.indentSize rfl ?_
    refine .cons_of taken.writeManifest rfl ?_
    exact .nil

-- Equal keys are the name of the same setting, or of none.
theorem hasField_congr {first second : Value} (same : first.sameKey second = true) :
    shape.HasField first ↔ shape.HasField second := by
  constructor
  · rintro ⟨slot, listed, rfl⟩
    exact ⟨slot, listed, Value.text_sameKey_iff.mp same⟩
  · rintro ⟨slot, listed, rfl⟩
    exact ⟨slot, listed, Value.sameKey_text_iff.mp same⟩

/-- All keys are names of settings, but for those of overrides that do not count. -/
structure Knows (entries overrides : SettingsEntries) : Prop where
  entries : ∀ entry ∈ entries, shape.HasField entry.1
  overrides : ∀ entry ∈ overrides, entry.2 ≠ .null → shape.HasField entry.1

section
variable {entries overrides : SettingsEntries}

theorem knows_iff : (∀ entry ∈ mergeOverrides entries overrides, shape.HasField entry.1) ↔
    Knows entries overrides := by
  rw [forall_mergeOverrides_iff fun _ _ => hasField_congr]
  exact ⟨fun ⟨own, others⟩ => ⟨own, others⟩, fun known => ⟨known.entries, known.overrides⟩⟩

theorem winning?_eq (entries overrides : SettingsEntries) :
    (Value.lookupText · (mergeOverrides entries overrides)) = winning? entries overrides :=
  funext (lookupText_mergeOverrides entries overrides)

theorem ofEntries_ok_iff : Settings.ofEntries entries overrides = .ok settings ↔
    Knows entries overrides ∧ settings.TakenFrom (winning? entries overrides) := by
  have built : Settings.ofEntries entries overrides = .ok settings ↔
      shape.ofEntries (mergeOverrides entries overrides) = .ok settings := by
    rw [Settings.ofEntries]
    cases shape.ofEntries (mergeOverrides entries overrides) <;> simp [Except.mapError]
  rw [built, Shape.ofEntries_ok_iff slots_optional, knows_iff, winning?_eq]
  exact and_congr_right fun _ => takes_slots_iff

theorem exists_ofEntries_ok_iff : (∃ settings, Settings.ofEntries entries overrides = .ok settings) ↔
    Knows entries overrides ∧ ∀ slot ∈ slots, ∀ value,
      winning? entries overrides slot.name = some value → slot.Accepts value := by
  rw [← Shape.exists_takes_iff shape.blank slots_optional]
  simp only [ofEntries_ok_iff, ← takes_slots_iff, exists_and_left]

end

end Settings

/-! ### Settings in files -/

/-- The settings that a file holds: those in the first section that it has, or all entries. -/
inductive SettingsOf (all : SettingsEntries) : SettingsEntries → Prop where
  | top (absent : ∀ name ∈ sectionNames, Value.lookupText name all = none) : SettingsOf all all
  | inside {earlier later : List String} {name : String} {entries : SettingsEntries}
      (order : sectionNames = earlier ++ name :: later)
      (absent : ∀ other ∈ earlier, Value.lookupText other all = none)
      (found : Value.lookupText name all = some (.mapping entries)) : SettingsOf all entries
  /-- A section that is the whole file again. -/
  | whole {earlier later : List String} {name : String} {between : Nat}
      (order : sectionNames = earlier ++ name :: later)
      (absent : ∀ other ∈ earlier, Value.lookupText other all = none)
      (found : Value.lookupText name all = some (.enclosing between)) : SettingsOf all all

theorem settingsOf_settingsAmong {path : Path} {all entries : SettingsEntries}
    (chosen : settingsAmong path all = .ok entries) : SettingsOf all entries := by
  rw [settingsAmong] at chosen
  cases first : sectionNames.findSome? fun key => (Value.lookupText key all).map (key, ·) with
  | none =>
    rw [first] at chosen
    cases chosen
    refine .top fun name listed => ?_
    simpa using List.findSome?_eq_none_iff.mp first name listed
  | some held =>
    obtain ⟨earlier, name, later, order, found, absent⟩ := List.findSome?_eq_some_iff.mp first
    obtain ⟨value, there, rfl⟩ := Option.map_eq_some_iff.mp found
    have before : ∀ other ∈ earlier, Value.lookupText other all = none :=
      fun other listed => by simpa using absent other listed
    rw [first] at chosen
    cases value with
    | mapping inner =>
      cases chosen
      exact .inside order before there
    | enclosing between =>
      cases chosen
      exact .whole order before there
    | _ => cases chosen

/-- What settings are loaded from, if they are: a text at the path, and the entries at its top. -/
theorem of_loadSettings_ok {file : String} {before after : Workspace} {entries : SettingsEntries}
    (loaded : (loadSettings file).result before = (.ok entries, after)) :
    ∃ text all, (readText (.ofText file)).result before = (.ok text, after) ∧
      topLevel (.ofText file) text = .ok all ∧ SettingsOf all entries := by
  obtain ⟨text, middle, read, given⟩ := of_result_bind_ok loaded
  obtain ⟨chosen, rfl⟩ := of_result_ofExcept_ok given
  cases top : topLevel (.ofText file) text with
  | error failure =>
    rw [settingsOfText, top] at chosen
    cases chosen
  | ok all =>
    rw [settingsOfText, top] at chosen
    exact ⟨text, all, read, top, settingsOf_settingsAmong chosen⟩

theorem result_buildSettings {file : String} {before after : Workspace} {entries : SettingsEntries}
    (loaded : (loadSettings file).result before = (.ok entries, after)) (overrides : SettingsEntries) :
    ((buildSettings (some file) overrides).result before).1 = Settings.ofEntries entries overrides := by
  simp only [buildSettings, result_bind, loaded, result_log, result_pure]
  cases Settings.ofEntries entries overrides <;> rfl

/-! ### Options -/

namespace GenerateCommand

/-- The options that give settings, and the names of these. -/
def settingOptions : List (String × String) :=
  [("--schema", "schema_path"), ("--output", "output_dir"), ("--extension", "file_extension"),
   ("--exclude", "excluded_fields"), ("--first-only", "first_model_only"),
   ("--no-swagger", "enable_swagger"), ("--no-guards", "enable_guards"),
   ("--no-common", "generate_common"), ("--manifest", "write_manifest")]

variable {arguments : Arguments}

theorem has_of_last? {flag : String} {texts : List String}
    (given : arguments.last? flag = some texts) : arguments.has flag = true := by
  obtain ⟨entry, found, -⟩ := Option.map_eq_some_iff.mp given
  rw [Arguments.has, List.any_eq_true]
  exact ⟨entry, List.mem_reverse.mp (List.mem_of_find?_eq_some found),
    by simpa using List.find?_some found⟩

theorem has_of_value? {flag : String} {argument : SingleArgument}
    (given : arguments.value? flag = some argument) : arguments.has flag = true := by
  obtain ⟨texts, last, -⟩ := Option.map_eq_some_iff.mp given
  exact has_of_last? last

/-- An override that an option gives. -/
def Gives (arguments : Arguments) (flag key : String) (entry : Value × Value) : Prop :=
  entry.1 = .text key ∧ arguments.has flag = true

variable {flag key : String} {entry : Value × Value}

theorem gives_of_mem_textOverride (given : entry ∈ textOverride arguments flag key) :
    Gives arguments flag key entry := by
  rw [textOverride] at given
  split at given
  · cases given
  all_goals
    rename_i present
    rw [List.mem_singleton.mp given]
    exact ⟨rfl, has_of_value? present⟩

theorem gives_of_mem_flagOverride {value : Bool}
    (given : entry ∈ flagOverride arguments flag key value) : Gives arguments flag key entry := by
  rw [flagOverride] at given
  split at given
  · rename_i present
    rw [List.mem_singleton.mp given]
    exact ⟨rfl, present⟩
  · cases given

-- Only options that were given override anything.
theorem gives_of_mem_optionOverrides (given : entry ∈ optionOverrides arguments) :
    ∃ option ∈ settingOptions, Gives arguments option.1 option.2 entry := by
  simp only [optionOverrides, List.mem_append] at given
  have listed {flag key : String} (known : (flag, key) ∈ settingOptions)
      (gives : Gives arguments flag key entry) :
      ∃ option ∈ settingOptions, Gives arguments option.1 option.2 entry :=
    ⟨(flag, key), known, gives⟩
  obtain (((((((schema | output) | extension) | exclude) | first) | swagger) | guards) | common) |
    manifest := given
  · exact listed (by decide) (gives_of_mem_textOverride schema)
  · exact listed (by decide) (gives_of_mem_textOverride output)
  · exact listed (by decide) (gives_of_mem_textOverride extension)
  · split at exclude
    · cases exclude
    · rename_i present
      rw [List.mem_singleton.mp exclude]
      exact ⟨("--exclude", "excluded_fields"), by decide, rfl, has_of_last? present⟩
  · exact listed (by decide) (gives_of_mem_flagOverride first)
  · exact listed (by decide) (gives_of_mem_flagOverride swagger)
  · exact listed (by decide) (gives_of_mem_flagOverride guards)
  · exact listed (by decide) (gives_of_mem_flagOverride common)
  · exact listed (by decide) (gives_of_mem_flagOverride manifest)

theorem winning?_optionOverrides {name : String} (entries : SettingsEntries)
    (ungiven : ∀ option ∈ settingOptions, option.2 = name → arguments.has option.1 = false) :
    winning? entries (optionOverrides arguments) name = Value.lookupText name entries := by
  have nothing : Value.lookupText name (effective (optionOverrides arguments)).reverse = none := by
    rw [Value.lookupText, Option.map_eq_none_iff, List.find?_eq_none]
    intro entry member named
    have given := (mem_effective.mp (List.mem_reverse.mp member)).1
    obtain ⟨option, listed, key, present⟩ := gives_of_mem_optionOverrides given
    have same : option.2 = name := by
      rw [key, Value.sameKey_text, decide_eq_true_eq] at named
      exact named
    rw [ungiven option listed same] at present
    cases present
  rw [winning?, nothing, Option.none_or]

theorem of_read_ok {texts : List String} {request : Request} (read : Request.read texts = .ok request) :
    ∃ known, grammar.read texts = .ok known ∧ request = .ofArguments known := by
  rw [Request.read] at read
  cases found : grammar.read texts with
  | error halt =>
    rw [found] at read
    cases read
  | ok known =>
    rw [found] at read
    change (if known.extras.isEmpty then _ else _) = _ at read
    split at read
    · cases read
      exact ⟨known, rfl, rfl⟩
    · cases read

end GenerateCommand

/-- Settings are built from the entries of a file and from overrides exactly if all keys that count are
known and each setting takes the value that wins; then each setting is read from that value, or has
its default. For the command this means that an option that is not given leaves its setting alone. -/
theorem buildSettings_layered {file : String} {before after : Workspace} {entries : SettingsEntries}
    (loaded : (loadSettings file).result before = (.ok entries, after)) (overrides : SettingsEntries) :
    let built := ((buildSettings (some file) overrides).result before).1
    (∃ text all, (readText (.ofText file)).result before = (.ok text, after) ∧
        topLevel (.ofText file) text = .ok all ∧ SettingsOf all entries) ∧
      ((∃ settings, built = .ok settings) ↔
        Settings.Knows entries overrides ∧ ∀ slot ∈ Settings.slots, ∀ value,
          winning? entries overrides slot.name = some value → slot.Accepts value) ∧
      (∀ settings, built = .ok settings ↔
        Settings.Knows entries overrides ∧ settings.TakenFrom (winning? entries overrides)) ∧
      ∀ texts request, GenerateCommand.Request.read texts = .ok request →
        request.settingsFile = some (.text file) →
        GenerateCommand.settings request = buildSettings (some file) request.overrides ∧
          ∃ known, GenerateCommand.grammar.read texts = .ok known ∧
            ∀ name, (∀ option ∈ GenerateCommand.settingOptions, option.2 = name →
                known.has option.1 = false) →
              winning? entries request.overrides name = Value.lookupText name entries := by
  intro built
  have same : built = Settings.ofEntries entries overrides := result_buildSettings loaded overrides
  rw [same]
  refine ⟨of_loadSettings_ok loaded, Settings.exists_ofEntries_ok_iff,
    fun settings => Settings.ofEntries_ok_iff, fun texts request read given => ?_⟩
  obtain ⟨known, found, rfl⟩ := GenerateCommand.of_read_ok read
  refine ⟨by rw [GenerateCommand.settings, given], known, found, fun name ungiven => ?_⟩
  exact GenerateCommand.winning?_optionOverrides entries ungiven

/-- A width that is out of bounds in a section of a file is overridden, and null overrides neither hide
the extension of the file nor count as unknown. -/
theorem buildSettings_layered_section :
    let document : Json := .object [("name", .string "demo"),
      ("nestgen", .object [("indent_size", .int 99), ("file_extension", .string ".js")])]
    let before : Workspace := ⟨⟨[(["home"], .folder),
      (["home", "c.json"], .file (document.render 2 ++ "\n").toUTF8)]⟩, ["home"], .zero false, []⟩
    let overrides : SettingsEntries :=
      [(.text "indent_size", .int 4), (.text "file_extension", .null), (.text "colour", .null)]
    ((buildSettings (some "c.json") overrides).result before).1 =
      .ok { indentSize := 4, fileExtension := "js" } := by
  intro document before overrides
  let entries : SettingsEntries :=
    [(.text "indent_size", .int 99), (.text "file_extension", .text ".js")]
  have inner : (Json.object [("indent_size", .int 99), ("file_extension", .string ".js")]).Readable := by
    refine .object (by decide) fun entry member => ?_
    simp only [List.mem_cons, List.not_mem_nil, or_false] at member
    obtain rfl | rfl := member
    · exact .int (by decide)
    · exact .string _
  have readable : document.Readable := by
    refine .object (by simp) fun entry member => ?_
    simp only [List.mem_cons, List.not_mem_nil, or_false] at member
    obtain rfl | rfl := member
    · exact .string _
    · exact inner
  have loaded : (loadSettings "c.json").result before = (.ok entries, before) :=
    loadSettings_document readable 2 (by decide +kernel) (by decide +kernel) rfl rfl rfl
  have known : Settings.Knows entries overrides := by
    constructor
    · intro entry member
      simp only [entries, List.mem_cons, List.not_mem_nil, or_false] at member
      obtain rfl | rfl := member <;> exact Shape.strayIssue?_eq_none_iff.mp (by decide)
    · intro entry member counts
      simp only [overrides, List.mem_cons, List.not_mem_nil, or_false] at member
      obtain rfl | rfl | rfl := member
      · exact Shape.strayIssue?_eq_none_iff.mp (by decide)
      · exact absurd rfl counts
      · exact absurd rfl counts
  apply ((buildSettings_layered loaded overrides).2.2.1 _).mpr
  refine ⟨known, ?_⟩
  constructor <;> decide +kernel

end PrismaNest
