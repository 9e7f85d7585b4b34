import PrismaNest.Proofs.Artifact.Documentation
import PrismaNest.Proofs.Code.Indentation
import PrismaNest.Proofs.Generation.Assignments

/-! Artifacts at different sizes of indentation.

No text of a code line starts with a space, whatever the schema declares and the settings name: what the
texts start with is fixed, or it is the name of a field. So all spaces in front of a written line come
from its level, and the size of an indentation changes nothing else.
-/

set_option autoImplicit false

namespace PrismaNest

open Text CodeLine

theorem CodeLine.flush_blank : Flush blank := by
  decide

theorem Imports.flush_codeBlock (imports : Imports) : ∀ line ∈ imports.codeBlock, line.Flush := by
  intro line member
  rcases Imports.eq_of_mem_codeBlock member with ⟨entry, -, rfl⟩ | rfl
  · simp [Flush, importLine]
  · exact flush_blank

theorem flush_propertyLines {enumNames : List String} {field : Field} (typed : field.Typed enumNames)
    (checked documented : Bool) : ∀ line ∈ field.propertyLines checked documented, line.Flush := by
  have decorator (text : String) : (decoratorLine text).Flush := by
    simp [decoratorLine, Flush]
  intro line member
  rcases Field.cases_of_mem_propertyLines member with ⟨check, -, rfl⟩ | rfl | rfl
  · exact decorator check
  · exact decorator field.exposure
  · obtain ⟨c, first, noSpace, -⟩ := head?_name typed
    simp [Flush, first, noSpace]

theorem flush_classLines {enumNames : List String} {fields : List Field}
    (typed : ∀ field ∈ fields, field.Typed enumNames) (name : String) (checked documented : Bool) :
    ∀ line ∈ classLines name fields checked documented, line.Flush := by
  intro line member
  simp only [classLines, List.mem_append, List.mem_singleton] at member
  rcases member with (rfl | inside) | rfl
  · simp [Flush]
  · rcases exists_field_of_mem_classBody inside with rfl | ⟨field, fieldMember, lineMember⟩
    · exact flush_blank
    · exact flush_propertyLines (typed field fieldMember) checked documented line lineMember
  · decide

namespace Model

variable (settings : Settings) (model : Model)

theorem flush_updateDtoLines : ∀ line ∈ model.updateDtoLines settings, line.Flush := by
  simp +decide [updateDtoLines, Flush, Imports.line]

theorem flush_searchDtoLines : ∀ line ∈ model.searchDtoLines settings, line.Flush := by
  simp +decide [searchDtoLines, Flush, Imports.line]

theorem flush_wiringLines : ∀ line ∈ model.wiringLines settings, line.Flush := by
  simp +decide [wiringLines, Flush, Imports.line]

theorem flush_serviceLines : ∀ line ∈ model.serviceLines settings, line.Flush := by
  simp +decide [serviceLines, serviceImports, serviceCreate, serviceFindAll, serviceFindOne,
    serviceUpdate, serviceRemove, rows, Flush, Imports.line]

theorem flush_controllerLines : ∀ line ∈ model.controllerLines settings, line.Flush := by
  have decorators : ∀ line ∈ model.controllerDecorators settings, line.Flush := by
    unfold controllerDecorators
    cases settings.enableSwagger <;> cases settings.enableGuards <;> simp +decide [Flush]
  have opening : ∀ line ∈ [⟨0, "export class " ++ model.controllerName ++ " \x7b"⟩,
      ⟨1, "constructor(private readonly " ++ model.serviceMember ++ ": " ++ model.serviceName
        ++ ") \x7b\x7d"⟩], CodeLine.Flush line := by
    simp [Flush]
  have endpoints : ∀ line ∈ model.endpoints.flatMap (Endpoint.lines settings.enableSwagger),
      line.Flush := by
    cases settings.enableSwagger <;>
      simp +decide [Flush, CodeLine.inside, Model.endpoints, Endpoint.lines, entityDocumentation,
        pageDocumentation]
  have closing : Flush ⟨0, "\x7d"⟩ := by decide
  simp only [controllerLines, List.forall_mem_append, List.forall_mem_singleton]
  exact ⟨⟨⟨⟨Imports.flush_codeBlock _, decorators⟩, opening⟩, endpoints⟩, closing⟩

end Model

theorem flush_baseQueryLines (settings : Settings) : ∀ line ∈ baseQueryLines settings, line.Flush := by
  have keys (documented : Bool) (default : Nat) : ∀ key ∈ ["page", "limit"],
      ∀ line ∈ pagingKeyLines documented key default, line.Flush := by
    cases documented <;> simp +decide [pagingKeyLines, Flush]
  simp only [baseQueryLines, List.forall_mem_append, List.forall_mem_singleton]
  exact ⟨⟨⟨⟨⟨Imports.flush_codeBlock _, by decide⟩, keys _ _ "page" (by decide)⟩, flush_blank⟩,
    keys _ _ "limit" (by decide)⟩, by decide⟩

namespace ArtifactKind

variable {settings : Settings} {model : Model}

theorem flush_lines {enumNames : List String} (typed : ∀ field ∈ model.fields, field.Typed enumNames)
    (kind : ArtifactKind) : ∀ line ∈ kind.lines settings model, line.Flush := by
  cases kind with
  | createDto =>
    have inModel : ∀ field ∈ model.dtoFields settings.excludedFields, field.Typed enumNames :=
      fun field inside => typed field (List.mem_filter.mp inside).1
    exact List.forall_mem_append.mpr ⟨Imports.flush_codeBlock _, flush_classLines inModel _ _ _⟩
  | updateDto => exact model.flush_updateDtoLines settings
  | searchDto => exact model.flush_searchDtoLines settings
  | entity =>
    exact List.forall_mem_append.mpr ⟨Imports.flush_codeBlock _, flush_classLines typed _ _ _⟩
  | service => exact model.flush_serviceLines settings
  | controller => exact model.flush_controllerLines settings
  | wiring => exact model.flush_wiringLines settings

theorem lacks_break (writable : model.Writable) (unbroken : settings.Unbroken) (kind : ArtifactKind) :
    ∀ line ∈ kind.lines settings model, Lacks '\n' line.text :=
  lacks_break_of_fits (kind.fits_lines writable unbroken.guardName)
    (all_imports (imported_unbroken writable unbroken) kind)

end ArtifactKind

theorem lacks_break_baseQueryLines (settings : Settings) :
    ∀ line ∈ baseQueryLines settings, Lacks '\n' line.text :=
  lacks_break_of_fits (fits_baseQueryLines settings) (all_baseQueryImports (by decide) (by decide) settings)

namespace CodeWriter

/-- Two texts of the same lines, each of them as many levels in at one width as at the other. -/
def IndentedAlike (width other : Nat) (text counterpart : String) : Prop :=
  List.Forall₂ (CodeLine.IndentedAlike width other) (lines text.toList) (lines counterpart.toList)

section
variable {text : String} {source : Option String} {model : Model}
  (member : model ∈ (Schema.ofText text source).models) {settings : Settings}
include member

theorem indentedAlike_artifact (unbroken : settings.Unbroken) (width other : Nat) (kind : ArtifactKind) :
    IndentedAlike width other (artifact ⟨settings, width⟩ kind model) (artifact ⟨settings, other⟩ kind model) :=
  forall₂_indentedAlike (kind.lines_ne_nil settings model)
    (kind.lacks_break (Schema.writable_of_mem_models member) unbroken)
    (kind.flush_lines (Schema.typed_of_mem_models member)) width other

omit member in
theorem indentedAlike_baseQuery (settings : Settings) (width other : Nat) :
    IndentedAlike width other (baseQuery ⟨settings, width⟩) (baseQuery ⟨settings, other⟩) :=
  forall₂_indentedAlike (by simp [baseQueryLines]) (lacks_break_baseQueryLines settings)
    (flush_baseQueryLines settings) width other

/-- Settings that differ in the size of an indentation only give the same files but for the spaces in
front of lines: as many levels of one size as of the other, and behind them the same text. -/
theorem artifacts_indentedAlike (unbroken : settings.Unbroken) (size : Nat) :
    let writer := ofSettings settings
    let other := ofSettings { settings with indentSize := size }
    (∀ kind, IndentedAlike settings.indentSize size (writer.artifact kind model) (other.artifact kind model)) ∧
      IndentedAlike settings.indentSize size writer.baseQuery other.baseQuery := by
  intro writer other
  refine ⟨fun kind => ?_, indentedAlike_baseQuery settings settings.indentSize size⟩
  have sized : other.artifact kind model = artifact ⟨settings, size⟩ kind model :=
    congrArg (renderAll size) (kind.lines_indentSize size)
  rw [sized]
  exact indentedAlike_artifact member unbroken settings.indentSize size kind

end

/-- A guarded and documented controller, whose answers are documented at five levels. -/
theorem artifacts_indentedAlike_doubled :
    let schema := Schema.ofText "enum Role \x7b\n A\n\x7d\nmodel User \x7b\n id Int\n role Role?\n\x7d" none
    let settings : Settings := {}
    settings.Unbroken ∧ settings.indentSize = 2 ∧ ∃ model ∈ schema.models, ∀ kind,
      IndentedAlike 2 4 ((ofSettings settings).artifact kind model)
        ((ofSettings { settings with indentSize := 4 }).artifact kind model) := by
  intro schema settings
  have unbroken : settings.Unbroken := ⟨by decide, by decide⟩
  obtain ⟨model, member⟩ : ∃ model, model ∈ schema.models := by
    apply List.exists_mem_of_ne_nil
    decide +kernel
  exact ⟨unbroken, rfl, model, member, (artifacts_indentedAlike member unbroken 4).1⟩

end CodeWriter

end PrismaNest
