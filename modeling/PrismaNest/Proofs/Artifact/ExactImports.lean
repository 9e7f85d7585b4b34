import PrismaNest.Proofs.Artifact.PropertyClasses
import PrismaNest.Proofs.Schema.Consistency

/-! What classes of properties import.

A written class of properties imports the checks, the documentation decorators and the enumerations
that its properties use, each once, and nothing else. The checks are imported in the order of a fixed
table, so it matters that every check of a field stands in that table.
-/

set_option autoImplicit false

namespace PrismaNest

open Text

/-- A name that a class with some properties uses, and the module that the name is imported from. -/
inductive Needs (settings : Settings) (enumNames : List String) (fields : List Field) (checked : Bool) :
    String → String → Prop where
  | check {field : Field} {decorator : String} : checked = true → field ∈ fields →
      decorator ∈ field.checks →
      Needs settings enumNames fields checked validatorModule (decoratorName decorator)
  | exposure {field : Field} : settings.enableSwagger = true → field ∈ fields →
      Needs settings enumNames fields checked swaggerModule (decoratorName field.exposure)
  | enumeration {field : Field} {name : String} : field ∈ fields → name ∈ enumNames →
      field.baseType = name → field.tsType = name ++ (if field.isArray then "[]" else "") →
      Needs settings enumNames fields checked settings.enumImport name

/-- A text imports what is needed and nothing else: each module has one line, and each line has names,
none of them twice. -/
structure ImportsExactly (text : String) (needed : String → String → Prop) : Prop where
  readable : ∀ line ∈ lines text.toList, "import ".toList <+: line →
    ∃ entry, Imports.readLine? line = some entry
  single : ((Imports.ofText text).map Prod.fst).Nodup
  names : ∀ entry ∈ Imports.ofText text, entry.2 ≠ [] ∧ entry.2.Nodup
  exact : ∀ source name, (∃ names, (source, names) ∈ Imports.ofText text ∧ name ∈ names) ↔
    needed source name

namespace Imports

theorem given_names {imports : Imports} :
    ∀ entry ∈ imports.given, entry.2 ≠ [] ∧ entry.2.Nodup := by
  intro entry member
  obtain ⟨written, writtenMember, rfl⟩ := List.mem_map.mp member
  have filled := (List.mem_filter.mp writtenMember).2
  obtain ⟨name, inside⟩ : ∃ name, name ∈ written.2 := by
    apply List.exists_mem_of_ne_nil
    simpa using filled
  exact ⟨List.ne_nil_of_mem (List.mem_eraseDups.mpr inside), nodup_eraseDups written.2⟩

theorem nodup_given {imports : Imports} (single : (imports.map Prod.fst).Nodup) :
    (imports.given.map Prod.fst).Nodup := by
  have part : (imports.given.map Prod.fst).Sublist (imports.map Prod.fst) := by
    rw [given, List.map_map]
    exact List.filter_sublist.map Prod.fst
  exact part.nodup single

-- A name is given for a module if an entry of the module has it.
theorem exists_mem_given_iff {imports : Imports} {source name : String} :
    (∃ names, (source, names) ∈ imports.given ∧ name ∈ names) ↔
      ∃ names, (source, names) ∈ imports ∧ name ∈ names := by
  constructor
  · rintro ⟨names, member, inside⟩
    obtain ⟨written, writtenMember, same⟩ := List.mem_map.mp member
    cases same
    exact ⟨written.2, (List.mem_filter.mp writtenMember).1, List.mem_eraseDups.mp inside⟩
  · rintro ⟨names, member, inside⟩
    refine ⟨names.eraseDups, List.mem_map.mpr ⟨_, List.mem_filter.mpr ⟨member, ?_⟩, rfl⟩,
      List.mem_eraseDups.mpr inside⟩
    simpa using List.ne_nil_of_mem inside

end Imports

namespace Field

variable {enumNames : List String} {name : String} {type : TypeToken}

theorem checkNames_ofType : ∀ check ∈ (ofType enumNames name type).checkNames, check ∈ checkOrder :=
  fun _ member =>
    (checkNames_sublist (decoratorName_typeCheck enumNames type) checks_ofType).mem member

theorem exposureName_ofType : (ofType enumNames name type).exposureName ∈ exposureOrder := by
  have written : (ofType enumNames name type).exposureName = exposureDecorator type.isOptional :=
    decoratorName_exposureFor _
  rw [written]
  cases type.isOptional <;> decide

theorem tsType_ofType_of_mem (declared : String.ofList type.base ∈ enumNames) :
    (ofType enumNames name type).tsType =
      String.ofList type.base ++ (if type.isArray then "[]" else "") := by
  rw [tsType_ofType, if_pos (List.contains_iff_mem.mpr declared)]

end Field

section
variable {settings : Settings} {enumNames : List String} {fields : List Field}
  (typed : ∀ field ∈ fields, field.Typed enumNames)
include typed

theorem mem_checksUsed_iff {name : String} :
    name ∈ checksUsed fields ↔ ∃ field ∈ fields, ∃ check ∈ field.checks, decoratorName check = name := by
  rw [checksUsed, List.mem_filter, List.contains_iff_mem, List.mem_flatMap]
  simp only [Field.checkNames, List.mem_map]
  refine ⟨And.right, fun used => ⟨?_, used⟩⟩
  obtain ⟨field, member, check, checkMember, rfl⟩ := used
  obtain ⟨_, _, -, rfl⟩ := typed field member
  exact Field.checkNames_ofType _ (List.mem_map_of_mem checkMember)

theorem mem_exposuresUsed_iff {name : String} :
    name ∈ exposuresUsed fields ↔ ∃ field ∈ fields, decoratorName field.exposure = name := by
  rw [exposuresUsed, List.mem_filter, List.contains_iff_mem, List.mem_map]
  refine ⟨And.right, fun used => ⟨?_, used⟩⟩
  obtain ⟨field, member, rfl⟩ := used
  obtain ⟨_, _, -, rfl⟩ := typed field member
  exact Field.exposureName_ofType

theorem mem_enumsUsed_iff {name : String} :
    name ∈ enumsUsed fields ↔ ∃ field ∈ fields, name ∈ enumNames ∧ field.baseType = name ∧
      field.tsType = name ++ (if field.isArray then "[]" else "") := by
  rw [enumsUsed, List.mem_eraseDups, List.mem_map]
  constructor
  · rintro ⟨field, member, rfl⟩
    obtain ⟨inside, declared⟩ := List.mem_filter.mp member
    obtain ⟨_, _, -, rfl⟩ := typed field inside
    have listed := List.contains_iff_mem.mp declared
    exact ⟨_, inside, listed, rfl, Field.tsType_ofType_of_mem listed⟩
  · rintro ⟨field, inside, listed, rfl, -⟩
    obtain ⟨_, _, -, rfl⟩ := typed field inside
    exact ⟨_, List.mem_filter.mpr ⟨inside, List.contains_iff_mem.mpr listed⟩, rfl⟩

-- The entries for a class of properties hold what the class needs.
theorem exists_mem_propertyImports_iff {checked : Bool} {source name : String} :
    (∃ names, (source, names) ∈ propertyImports settings fields checked ∧ name ∈ names) ↔
      Needs settings enumNames fields checked source name := by
  constructor
  · rintro ⟨names, member, inside⟩
    simp only [propertyImports, List.mem_append, List.mem_singleton] at member
    rcases member with (documentation | checking) | enumerations
    · split at documentation
      · rename_i documented
        cases List.mem_singleton.mp documentation
        obtain ⟨field, fieldMember, rfl⟩ := (mem_exposuresUsed_iff typed).mp inside
        exact .exposure documented fieldMember
      · cases documentation
    · split at checking
      · rename_i isChecked
        cases List.mem_singleton.mp checking
        obtain ⟨field, fieldMember, check, checkMember, rfl⟩ := (mem_checksUsed_iff typed).mp inside
        exact .check isChecked fieldMember checkMember
      · cases checking
    · cases enumerations
      obtain ⟨field, fieldMember, listed, base, written⟩ := (mem_enumsUsed_iff typed).mp inside
      exact .enumeration fieldMember listed base written
  · intro needed
    cases needed with
    | check isChecked fieldMember checkMember =>
      refine ⟨checksUsed fields, ?_, (mem_checksUsed_iff typed).mpr ⟨_, fieldMember, _, checkMember, rfl⟩⟩
      simp [propertyImports, isChecked]
    | exposure documented fieldMember =>
      refine ⟨exposuresUsed fields, ?_, (mem_exposuresUsed_iff typed).mpr ⟨_, fieldMember, rfl⟩⟩
      simp [propertyImports, documented]
    | enumeration fieldMember listed base written =>
      refine ⟨enumsUsed fields, ?_,
        (mem_enumsUsed_iff typed).mpr ⟨_, fieldMember, listed, base, written⟩⟩
      simp [propertyImports]

end

/-- Settings that take the enumerations from a module of their own. -/
structure Settings.EnumsApart (settings : Settings) : Prop where
  quotable : Quotable settings.enumImport
  fromChecks : settings.enumImport ≠ validatorModule
  fromDocumentation : settings.enumImport ≠ swaggerModule

section
variable {settings : Settings} (apart : settings.EnumsApart)
include apart

theorem nodup_propertyImports (fields : List Field) (checked : Bool) :
    ((propertyImports settings fields checked).map Prod.fst).Nodup := by
  have others : swaggerModule ≠ validatorModule := by decide
  cases documented : settings.enableSwagger <;> cases checked <;>
    simp [propertyImports, documented, others, apart.fromChecks.symm, apart.fromDocumentation.symm]

theorem ofList_propertyImports (fields : List Field) (checked : Bool) :
    Imports.ofList (propertyImports settings fields checked) = propertyImports settings fields checked :=
  putEntries_of_fresh (nodup_propertyImports apart fields checked) fun _ _ => List.not_mem_nil

theorem importsExactly_propertyClass {name : String} (unbroken : Lacks '\n' name)
    {enumNames : List String} {fields : List Field} (writable : ∀ field ∈ fields, field.Writable)
    (typed : ∀ field ∈ fields, field.Typed enumNames) (checked : Bool)
    {width : Nat} (wide : 0 < width) :
    ImportsExactly (CodeLine.renderAll width (propertyClass settings name fields checked))
      (Needs settings enumNames fields checked) := by
  have readable := readable_propertyImports writable checked apart.quotable
  have isBody := isBody_classLines unbroken writable checked settings.enableSwagger
  have written := classLines_ne_nil name fields checked settings.enableSwagger
  rw [propertyClass, ofList_propertyImports apart]
  have read := Imports.ofText_renderAll isBody written readable wide
  constructor
  · exact fun line member starts => Imports.exists_of_isPrefix isBody written readable wide member starts
  · rw [read]
    exact Imports.nodup_given (nodup_propertyImports apart fields checked)
  · rw [read]
    exact Imports.given_names
  · intro source name
    rw [read, Imports.exists_mem_given_iff]
    exact exists_mem_propertyImports_iff typed

end

namespace CodeWriter

end CodeWriter

end PrismaNest
