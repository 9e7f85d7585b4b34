import PrismaNest.Artifact.FileSet
import PrismaNest.Proofs.Code.ImportLines
import PrismaNest.Proofs.Naming.Words
import PrismaNest.Proofs.Schema.Names

/-! The bodies of artifacts.

No line after the imports of an artifact is an import, and none holds a line feed: members are
written further in, and what stands at the top opens a class, a decorator or a closing brace.
-/

set_option autoImplicit false

namespace PrismaNest

open Text

namespace CodeLine

@[simp] theorem isBody_iff {line : CodeLine} : line.IsBody ↔ Lacks '\n' line.text ∧ line.Inert :=
  ⟨fun body => ⟨body.unbroken, body.inert⟩, fun both => ⟨both.1, both.2⟩⟩

theorem isBody_blank : IsBody blank :=
  isBody_iff.mpr ⟨by decide, fun _ => by decide⟩

-- Lines further in are no imports.
theorem isBody_inside {level : Nat} {text : String} (unbroken : Lacks '\n' text) :
    IsBody ⟨level + 1, text⟩ :=
  ⟨unbroken, fun top => absurd top (Nat.succ_ne_zero level)⟩

end CodeLine

-- A property is a signature, with a decorator in front for each check and for its documentation.
theorem Field.cases_of_mem_propertyLines {field : Field} {checked documented : Bool} {line : CodeLine}
    (member : line ∈ field.propertyLines checked documented) :
    (∃ check ∈ field.checks, line = decoratorLine check) ∨ line = decoratorLine field.exposure ∨
      line = ⟨1, field.name ++ field.optionalMark ++ ": " ++ field.tsType ++ ";"⟩ := by
  simp only [propertyLines, List.mem_append, List.mem_singleton] at member
  rcases member with (check | exposure) | signature
  · split at check
    · obtain ⟨text, textMember, rfl⟩ := List.mem_map.mp check
      exact .inl ⟨text, textMember, rfl⟩
    · cases check
  · split at exposure
    · exact .inr (.inl (List.mem_singleton.mp exposure))
    · cases exposure
  · exact .inr (.inr signature)

section
variable {field : Field} (writable : field.Writable)
include writable

theorem isBody_propertyLines (checked documented : Bool) :
    ∀ line ∈ field.propertyLines checked documented, line.IsBody := by
  have decorator : ∀ text, Lacks '\n' text → (decoratorLine text).IsBody := by
    intro text unbroken
    apply CodeLine.isBody_inside
    rw [lacks_append]
    exact ⟨by decide, unbroken⟩
  have mark : Lacks '\n' field.optionalMark := by
    unfold Field.optionalMark
    split <;> decide
  intro line member
  rcases Field.cases_of_mem_propertyLines member with ⟨check, checkMember, rfl⟩ | rfl | rfl
  · exact decorator check (writable.checks check checkMember)
  · exact decorator field.exposure writable.exposure
  · apply CodeLine.isBody_inside
    simp +decide only [lacks_append, writable.name, mark, writable.tsType]

end

theorem mem_of_mem_intersperse {α : Type} {separator element : α} {elements : List α}
    (member : element ∈ elements.intersperse separator) : element = separator ∨ element ∈ elements := by
  induction elements with
  | nil => cases member
  | cons first elements ih =>
    cases elements with
    | nil => exact .inr member
    | cons second elements =>
      rw [List.intersperse_cons_cons] at member
      rcases List.mem_cons.mp member with rfl | member
      · exact .inr List.mem_cons_self
      · rcases List.mem_cons.mp member with same | member
        · exact .inl same
        · exact (ih member).imp_right (List.mem_cons_of_mem first)

-- A line of a class body belongs to a property or stands between two of them.
theorem exists_field_of_mem_classBody {fields : List Field} {checked documented : Bool} {line : CodeLine}
    (member : line ∈ classBody fields checked documented) :
    line = .blank ∨ ∃ field ∈ fields, line ∈ field.propertyLines checked documented := by
  obtain ⟨group, groupMember, lineMember⟩ := List.mem_flatten.mp member
  rcases mem_of_mem_intersperse groupMember with rfl | property
  · exact .inl (List.mem_singleton.mp lineMember)
  · obtain ⟨field, fieldMember, rfl⟩ := List.mem_map.mp property
    exact .inr ⟨field, fieldMember, lineMember⟩

theorem isBody_classLines {name : String} (unbroken : Lacks '\n' name) {fields : List Field}
    (writable : ∀ field ∈ fields, field.Writable) (checked documented : Bool) :
    ∀ line ∈ classLines name fields checked documented, line.IsBody := by
  have opening : CodeLine.IsBody ⟨0, "export class " ++ name ++ " \x7b"⟩ := by
    simp +decide [CodeLine.Inert, unbroken]
  have closing : CodeLine.IsBody ⟨0, "\x7d"⟩ := CodeLine.isBody_iff.mpr ⟨by decide, fun _ => by decide⟩
  intro line member
  simp only [classLines, List.mem_append, List.mem_singleton] at member
  rcases member with (rfl | inside) | rfl
  · exact opening
  · rcases exists_field_of_mem_classBody inside with rfl | ⟨field, fieldMember, lineMember⟩
    · exact CodeLine.isBody_blank
    · exact isBody_propertyLines (writable field fieldMember) checked documented line lineMember
  · exact closing

theorem isBody_pagingKeyLines (documented : Bool) {key : String} (unbroken : Lacks '\n' key)
    (default : Nat) : ∀ line ∈ pagingKeyLines documented key default, line.IsBody := by
  have number : Lacks '\n' default.repr := lacks_repr (by decide) default
  cases documented <;>
    simp +decide [pagingKeyLines, CodeLine.Inert, unbroken, number]

namespace Model

section
variable {model : Model} (writable : model.Writable)
include writable

theorem lacks_name : Lacks '\n' model.name :=
  writable.name.lacks (by decide)

theorem lacks_handle : Lacks '\n' model.handle :=
  Naming.lacks_lowerFirst (by decide) writable.name.word

omit writable in
theorem lacks_route (model : Model) : Lacks '\n' model.route :=
  Naming.lacks_kebabCase (by decide) (by decide) _

omit writable in
theorem lacks_idType (model : Model) : Lacks '\n' model.idType := by
  unfold idType
  split <;> decide

theorem isBody_serviceMethods (pageSize : Nat) :
    ∀ line ∈ model.serviceCreate ++ model.serviceFindAll pageSize ++ model.serviceFindOne
      ++ model.serviceUpdate ++ model.serviceRemove, line.IsBody := by
  have name := lacks_name writable
  have handle := lacks_handle writable
  have size : Lacks '\n' pageSize.repr := lacks_repr (by decide) pageSize
  have idType := lacks_idType model
  simp +decide [CodeLine.Inert, serviceCreate, serviceFindAll,
    serviceFindOne, serviceUpdate, serviceRemove, createArgument, updateArgument, createDtoName,
    updateDtoName, searchDtoName, rows, name, handle, size, idType]

theorem isBody_endpoints (documented : Bool) :
    ∀ line ∈ model.endpoints.flatMap (Endpoint.lines documented), line.IsBody := by
  have name := lacks_name writable
  have handle := lacks_handle writable
  have idType := lacks_idType model
  have parameter : Lacks '\n' model.idParameter := by
    unfold idParameter
    split <;> simp +decide [idType]
  cases documented <;>
    simp +decide [CodeLine.Inert, CodeLine.inside, endpoints, Endpoint.lines, entityDocumentation, pageDocumentation, serviceMember, createArgument,
      updateArgument, createDtoName, updateDtoName, searchDtoName, entityName, name, handle, parameter]

theorem isBody_controllerDecorators {settings : Settings} (guard : Lacks '\n' settings.guardName) :
    ∀ line ∈ model.controllerDecorators settings, line.IsBody := by
  have name := lacks_name writable
  have route := lacks_route model
  unfold controllerDecorators
  cases settings.enableSwagger <;> cases settings.enableGuards <;>
    simp +decide [CodeLine.Inert, entityName, name, route, guard]

/-- What stands after the imports of a controller. -/
def controllerCode (settings : Settings) (model : Model) : List CodeLine :=
  model.controllerDecorators settings
    ++ [⟨0, "export class " ++ model.controllerName ++ " \x7b"⟩,
      ⟨1, "constructor(private readonly " ++ model.serviceMember ++ ": " ++ model.serviceName
        ++ ") \x7b\x7d"⟩]
    ++ model.endpoints.flatMap (Endpoint.lines settings.enableSwagger)
    ++ [⟨0, "\x7d"⟩]

omit writable in
theorem controllerLines_eq (settings : Settings) (model : Model) : model.controllerLines settings =
    (model.controllerImports settings).codeBlock ++ model.controllerCode settings := by
  simp only [controllerLines, controllerCode, List.append_assoc]

theorem isBody_controllerCode {settings : Settings} (guard : Lacks '\n' settings.guardName) :
    ∀ line ∈ model.controllerCode settings, line.IsBody := by
  have name := lacks_name writable
  have handle := lacks_handle writable
  have opening : ∀ line ∈ [⟨0, "export class " ++ model.controllerName ++ " \x7b"⟩,
      ⟨1, "constructor(private readonly " ++ model.serviceMember ++ ": " ++ model.serviceName
        ++ ") \x7b\x7d"⟩], CodeLine.IsBody line := by
    simp +decide [CodeLine.Inert, controllerName, serviceName,
      serviceMember, name, handle]
  have closing : CodeLine.IsBody ⟨0, "\x7d"⟩ := by
    simp +decide [CodeLine.Inert]
  unfold controllerCode
  simp only [List.forall_mem_append, List.forall_mem_singleton]
  exact ⟨⟨⟨isBody_controllerDecorators writable guard, opening⟩,
    isBody_endpoints writable settings.enableSwagger⟩, closing⟩

end

end Model

/-- What stands after the imports of the base query. -/
def baseQueryCode (settings : Settings) : List CodeLine :=
  [⟨0, "export class BaseQueryDto \x7b"⟩]
    ++ pagingKeyLines settings.enableSwagger "page" 1
    ++ [.blank]
    ++ pagingKeyLines settings.enableSwagger "limit" settings.defaultPageSize
    ++ [⟨0, "\x7d"⟩]

theorem isBody_baseQueryCode (settings : Settings) : ∀ line ∈ baseQueryCode settings, line.IsBody := by
  have opening : CodeLine.IsBody ⟨0, "export class BaseQueryDto \x7b"⟩ :=
    CodeLine.isBody_iff.mpr ⟨by decide, fun _ => by decide⟩
  have closing : CodeLine.IsBody ⟨0, "\x7d"⟩ := CodeLine.isBody_iff.mpr ⟨by decide, fun _ => by decide⟩
  have keys (key : String) (unbroken : Lacks '\n' key) (default : Nat) :=
    isBody_pagingKeyLines settings.enableSwagger unbroken default
  unfold baseQueryCode
  simp only [List.forall_mem_append, List.forall_mem_singleton]
  exact ⟨⟨⟨⟨opening, keys "page" (by decide) 1⟩, CodeLine.isBody_blank⟩,
    keys "limit" (by decide) settings.defaultPageSize⟩, closing⟩

end PrismaNest
