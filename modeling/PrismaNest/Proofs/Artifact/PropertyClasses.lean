import PrismaNest.Proofs.Artifact.Imports
import PrismaNest.Proofs.Code.ImportReading

/-! Classes with one property per field.

The create request and the entity are written in one form: the imports that their properties use, and
a class of these properties. They differ in their fields, and in whether a property is checked.
-/

set_option autoImplicit false

namespace PrismaNest

open Text

/-- What a class of properties imports, in the order of its import lines. -/
def propertyImports (settings : Settings) (fields : List Field) (checked : Bool) : Imports :=
  (if settings.enableSwagger then [(swaggerModule, exposuresUsed fields)] else [])
    ++ (if checked then [(validatorModule, checksUsed fields)] else [])
    ++ [(settings.enumImport, enumsUsed fields)]

def propertyClass (settings : Settings) (name : String) (fields : List Field) (checked : Bool) :
    List CodeLine :=
  (Imports.ofList (propertyImports settings fields checked)).codeBlock
    ++ classLines name fields checked settings.enableSwagger

section
variable (settings : Settings) (model : Model)

theorem createDtoLines_eq_propertyClass : model.createDtoLines settings =
    propertyClass settings model.createDtoName (model.dtoFields settings.excludedFields) true := by
  rw [propertyClass, propertyImports, if_pos rfl, List.append_assoc, List.singleton_append]
  rfl

theorem entityLines_eq_propertyClass : model.entityLines settings =
    propertyClass settings model.entityName model.fields false := by
  rw [propertyClass, propertyImports, if_neg Bool.false_ne_true, List.append_nil]
  rfl

end

theorem classLines_ne_nil (name : String) (fields : List Field) (checked documented : Bool) :
    classLines name fields checked documented ≠ [] := by
  simp [classLines]

section
variable (field second : Field) (fields : List Field) (checked documented : Bool)

theorem classBody_singleton :
    classBody [field] checked documented = field.propertyLines checked documented := by
  simp [classBody]

theorem classBody_cons_cons : classBody (field :: second :: fields) checked documented =
    field.propertyLines checked documented ++ .blank :: classBody (second :: fields) checked documented := by
  simp [classBody]

end

section
variable {settings : Settings} {fields : List Field} (writable : ∀ field ∈ fields, field.Writable)
  (checked : Bool)
include writable

-- The modules are two packages and the one that the settings give; all names are words.
theorem forall_propertyImports {P : String → Prop} (packages : ∀ source ∈ [swaggerModule, validatorModule], P source)
    (enums : P settings.enumImport) :
    ∀ entry ∈ propertyImports settings fields checked, P entry.1 ∧ ∀ name ∈ entry.2, IsWord name := by
  have words : ∀ name ∈ checkOrder ++ exposureOrder, IsWord name := by decide +kernel
  have exposures : ∀ name ∈ exposuresUsed fields, IsWord name := fun name member =>
    words name (List.mem_append_right _ (List.mem_filter.mp member).1)
  have checks : ∀ name ∈ checksUsed fields, IsWord name := fun name member =>
    words name (List.mem_append_left _ (List.mem_filter.mp member).1)
  have enumNames : ∀ name ∈ enumsUsed fields, IsWord name :=
    ArtifactKind.all_enumsUsed fun field member => (writable field member).enumName
  intro entry member
  simp only [propertyImports, List.mem_append, List.mem_singleton] at member
  rcases member with (documentation | checking) | rfl
  · split at documentation
    · rw [List.mem_singleton.mp documentation]
      exact ⟨packages _ (by simp), exposures⟩
    · cases documentation
  · split at checking
    · rw [List.mem_singleton.mp checking]
      exact ⟨packages _ (by simp), checks⟩
    · cases checking
  · exact ⟨enums, enumNames⟩

theorem readable_propertyImports (quotable : Quotable settings.enumImport) :
    (propertyImports settings fields checked).Readable :=
  forall_propertyImports writable checked (by decide) quotable

theorem unbroken_propertyImports (enums : Lacks '\n' settings.enumImport) :
    (propertyImports settings fields checked).Unbroken := by
  intro entry member
  obtain ⟨source, words⟩ := forall_propertyImports writable checked (by decide) enums entry member
  exact ⟨source, fun name inside => (words name inside).lacks (by decide)⟩

end

end PrismaNest
