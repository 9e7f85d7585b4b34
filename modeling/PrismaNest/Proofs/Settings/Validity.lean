import PrismaNest.Proofs.Entries
import PrismaNest.Proofs.Text.Runs
import PrismaNest.Proofs.Validation.Assignments
import PrismaNest.Proofs.Validation.Records
import PrismaNest.Settings.Shape

/-! Valid settings.

Settings that are read from data are valid, and an assignment keeps them so: it is refused and
changes nothing, or it changes one field. The plain fields of valid settings, read again, give the
same settings, as each value is read as it has been stored.
-/

set_option autoImplicit false

namespace PrismaNest.Settings

variable {settings : Settings}

/-- What holds of all settings that have been checked. -/
structure Valid (settings : Settings) : Prop where
  extension : settings.fileExtension ≠ ""
  noDot : settings.fileExtension.toList.head? ≠ some '.'
  exclusions : settings.excludedFields.Nodup
  pageSize : 1 ≤ settings.defaultPageSize ∧ settings.defaultPageSize ≤ 1000
  indentSize : 2 ≤ settings.indentSize ∧ settings.indentSize ≤ 8
  guardName : settings.guardName ≠ ""
  guardImport : settings.guardImport ≠ ""
  prismaServiceImport : settings.prismaServiceImport ≠ ""
  enumImport : settings.enumImport ≠ ""
  baseQueryImport : settings.baseQueryImport ≠ ""

/-- The fields of settings by their names, as plain values. -/
def fields (settings : Settings) : List (String × Value) :=
  [("schema_path", .text settings.schemaPath),
   ("output_dir", .text settings.outputDir),
   ("file_extension", .text settings.fileExtension),
   ("first_model_only", .bool settings.firstModelOnly),
   ("excluded_fields", .list (settings.excludedFields.map .text)),
   ("enable_swagger", .bool settings.enableSwagger),
   ("enable_guards", .bool settings.enableGuards),
   ("guard_name", .text settings.guardName),
   ("guard_import", .text settings.guardImport),
   ("prisma_service_import", .text settings.prismaServiceImport),
   ("enum_import", .text settings.enumImport),
   ("base_query_import", .text settings.baseQueryImport),
   ("generate_common", .bool settings.generateCommon),
   ("default_page_size", .int settings.defaultPageSize),
   ("indent_size", .int settings.indentSize),
   ("write_manifest", .bool settings.writeManifest)]

/-! ### What the readers give -/

section
variable {value : Value} {extension : String} {names : List String}

theorem readExtension_ok (read : readExtension value = .ok extension) :
    extension ≠ "" ∧ extension.toList.head? ≠ some '.' := by
  rw [readExtension] at read
  split at read
  · cases read
  · rename_i given _
    dsimp only at read
    split at read
    · cases read
    · rename_i filled
      cases read
      have outside := Text.startsOutside_dropWhile (fun c => decide (c = '.')) given.toList
      refine ⟨?_, fun dot => ?_⟩
      · simpa using filled
      · rw [String.toList_ofList] at dot
        exact Bool.noConfusion (outside '.' dot)

theorem readExtension_text (filled : extension ≠ "") (noDot : extension.toList.head? ≠ some '.') :
    readExtension (.text extension) = .ok extension := by
  have outside : Text.StartsOutside (fun c => decide (c = '.')) extension.toList := by
    intro c first
    rw [decide_eq_false_iff_not]
    rintro rfl
    exact noDot first
  have bare : extension.toList.dropWhile (fun c => decide (c = '.')) = extension.toList :=
    Text.dropWhile_of_startsOutside outside
  have nonempty : extension.toList.isEmpty = false := by simpa using filled
  rw [readExtension, Value.readNonemptyText_text filled]
  simp only [bare, nonempty, Bool.false_eq_true, ↓reduceIte, String.ofList_toList]

theorem readExclusions_ok (read : readExclusions value = .ok names) : names.Nodup := by
  rw [readExclusions] at read
  cases given : value.readList Value.readText with
  | error issues =>
    rw [given] at read
    cases read
  | ok listed =>
    rw [given] at read
    cases read
    exact nodup_eraseDups listed

theorem readExclusions_texts (single : names.Nodup) :
    readExclusions (.list (names.map .text)) = .ok names := by
  rw [readExclusions, Value.readList_texts, Except.map, eraseDups_eq_self single]

end

/-- Storing a value in a field keeps settings valid, and touches no other field. -/
theorem store_spec : ∀ slot ∈ slots, ∀ value (settings next : Settings),
    slot.store value settings = .ok next →
      (settings.Valid → next.Valid) ∧
        ∃ stored, next.fields = putEntry slot.name stored settings.fields := by
  intro slot listed value settings next done
  simp only [slots, List.mem_cons, List.not_mem_nil, or_false] at listed
  obtain rfl | rfl | rfl | rfl | rfl | rfl | rfl | rfl | rfl | rfl | rfl | rfl | rfl | rfl | rfl | rfl :=
    listed
  all_goals
    obtain ⟨part, read, rfl⟩ := Slot.of_store done
    refine ⟨fun valid => ?_, by simp [fields, putEntry, Slot.of]⟩
  · exact { valid with }
  · exact { valid with }
  · obtain ⟨filled, noDot⟩ := readExtension_ok read
    exact { valid with extension := filled, noDot := noDot }
  · exact { valid with }
  · exact { valid with exclusions := readExclusions_ok read }
  · exact { valid with }
  · exact { valid with }
  · exact { valid with guardName := Value.readNonemptyText_ok read }
  · exact { valid with guardImport := Value.readNonemptyText_ok read }
  · exact { valid with prismaServiceImport := Value.readNonemptyText_ok read }
  · exact { valid with enumImport := Value.readNonemptyText_ok read }
  · exact { valid with baseQueryImport := Value.readNonemptyText_ok read }
  · exact { valid with }
  · exact { valid with pageSize := Value.readBounded_ok read }
  · exact { valid with indentSize := Value.readBounded_ok read }
  · exact { valid with }

theorem blank_valid : shape.blank.Valid := by
  constructor <;> decide

-- A value that is stored is read as it is.
theorem fills_fields (valid : settings.Valid) :
    Shape.Fills shape.slots settings.fields shape.blank settings := by
  refine .cons (Slot.store_of (Value.readText_text _) ..) ?_
  refine .cons (Slot.store_of (Value.readText_text _) ..) ?_
  refine .cons (Slot.store_of (readExtension_text valid.extension valid.noDot) ..) ?_
  refine .cons (Slot.store_of (Value.readTruth_bool _) ..) ?_
  refine .cons (Slot.store_of (readExclusions_texts valid.exclusions) ..) ?_
  refine .cons (Slot.store_of (Value.readTruth_bool _) ..) ?_
  refine .cons (Slot.store_of (Value.readTruth_bool _) ..) ?_
  refine .cons (Slot.store_of (Value.readNonemptyText_text valid.guardName) ..) ?_
  refine .cons (Slot.store_of (Value.readNonemptyText_text valid.guardImport) ..) ?_
  refine .cons (Slot.store_of (Value.readNonemptyText_text valid.prismaServiceImport) ..) ?_
  refine .cons (Slot.store_of (Value.readNonemptyText_text valid.enumImport) ..) ?_
  refine .cons (Slot.store_of (Value.readNonemptyText_text valid.baseQueryImport) ..) ?_
  refine .cons (Slot.store_of (Value.readTruth_bool _) ..) ?_
  refine .cons (Slot.store_of (Value.readBounded_int valid.pageSize.1 valid.pageSize.2) ..) ?_
  refine .cons (Slot.store_of (Value.readBounded_int valid.indentSize.1 valid.indentSize.2) ..) ?_
  exact .cons (Slot.store_of (Value.readTruth_bool _) ..) .nil

theorem ofValue_fields (valid : settings.Valid) :
    shape.ofValue (.ofNamed settings.fields) = .ok settings :=
  Shape.ofValue_ofNamed (by decide) (fills_fields valid)

theorem slots_preserve : Shape.Preserves slots Valid :=
  fun slot listed value settings next valid stored =>
    (store_spec slot listed value settings next stored).1 valid

-- An assignment that is taken changes the field of that name alone.
theorem lookup_fields_assign {name other : String} {value : Value} {next : Settings}
    (assigned : shape.assign name value settings = .ok next) (apart : other ≠ name) :
    next.fields.lookup other = settings.fields.lookup other := by
  obtain ⟨slot, listed, rfl, done⟩ := Shape.of_assign_ok assigned
  obtain ⟨-, stored, same⟩ := store_spec slot listed value settings next done
  rw [same, lookup_putEntry, if_neg apart]

/-- Settings that were built from any data, and then assigned anew any number of times, are valid, and
their fields give them back. A further assignment is refused and leaves them as they are, or it
leaves all fields but the assigned one. -/
theorem assignAll_valid {data : Value} (built : shape.ofValue data = .ok settings)
    (assignments : List (String × Value)) :
    let reached := shape.assignAll assignments settings
    reached.Valid ∧ shape.ofValue (.ofNamed reached.fields) = .ok reached ∧
      ∀ name value, match shape.assign name value reached with
        | .error _ => shape.assignAll (assignments ++ [(name, value)]) settings = reached
        | .ok next => shape.assignAll (assignments ++ [(name, value)]) settings = next ∧
            ∀ other, other ≠ name → next.fields.lookup other = reached.fields.lookup other := by
  intro reached
  have start : settings.Valid := Shape.Preserves.ofValue slots_preserve blank_valid built
  have valid : reached.Valid := Shape.Preserves.assignAll slots_preserve start assignments
  refine ⟨valid, ofValue_fields valid, fun name value => ?_⟩
  have step : shape.assignAll (assignments ++ [(name, value)]) settings =
      (shape.assign name value reached).toOption.getD reached := Shape.assignAll_concat ..
  cases assigned : shape.assign name value reached with
  | error issues => rwa [assigned] at step
  | ok next =>
    rw [assigned] at step
    exact ⟨step, fun other apart => lookup_fields_assign assigned apart⟩

/-- Dots in front of an extension, one that has nothing else, names that come twice, a number in an
unusual form, and a name that no field has. -/
theorem assignAll_valid_dots :
    let data : Value := .ofNamed [("file_extension", .text "..ts"),
      ("excluded_fields", .list [.text "id", .text "at", .text "id"])]
    let assignments : List (String × Value) := [("file_extension", .text "...js"),
      ("file_extension", .text "..."), ("indent_size", .text " +4.0 "), ("colour", .null)]
    ∃ settings, shape.ofValue data = .ok settings ∧
      shape.assignAll assignments settings =
        { fileExtension := "js", excludedFields := ["id", "at"], indentSize := 4 } ∧
      (shape.assignAll assignments settings).Valid := by
  intro data assignments
  have built : shape.ofValue data = .ok { fileExtension := "ts", excludedFields := ["id", "at"] } := by
    decide +kernel
  exact ⟨_, built, by decide +kernel, (assignAll_valid built assignments).1⟩

end PrismaNest.Settings
