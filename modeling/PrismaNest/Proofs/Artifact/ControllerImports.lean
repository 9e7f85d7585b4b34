import PrismaNest.Proofs.Artifact.ControllerCode
import PrismaNest.Proofs.Code.ImportReading

/-! Whether a controller imports what it uses.

A controller collects its imports by module, and a module that is given again takes the last names. So
the entry of the guard, whose module the settings give, can take the place of another entry or lose its
own to one. Exactly if it does not, every name is kept, and then all that the code applies is imported.
-/

set_option autoImplicit false

namespace PrismaNest

open Text

namespace Imports

/-- Every name that is given for a module is kept for it. -/
def Keeps (imports entries : Imports) : Prop :=
  ∀ entry ∈ entries, ∀ name ∈ entry.2, ∃ names, (entry.1, names) ∈ imports ∧ name ∈ names

-- Nothing is lost where entries of one module have the same names.
theorem keeps_ofList {entries : Imports}
    (agree : ∀ entry ∈ entries, ∀ other ∈ entries, other.1 = entry.1 → other.2 = entry.2) :
    (ofList entries).Keeps entries := by
  intro entry member name inside
  obtain ⟨names, given, kept⟩ := exists_mem_putEntries (List.mem_map_of_mem (f := Prod.fst) member) []
  obtain rfl : names = entry.2 := agree entry member _ given rfl
  exact ⟨entry.2, kept, inside⟩

-- A module that is given a single name at last has no other name.
theorem eq_of_keeps {front back : Imports} (keeps : (ofList (front ++ back)).Keeps (front ++ back))
    (singles : ∀ entry ∈ back, ∃ name, entry.2 = [name]) {source : String}
    (last : source ∈ back.map Prod.fst) :
    ∃ name, ∀ entry ∈ front ++ back, entry.1 = source → ∀ other ∈ entry.2, other = name := by
  obtain ⟨names, given, kept⟩ := exists_mem_putEntries last (putEntries [] front)
  rw [← putEntries_append] at kept
  obtain ⟨name, rfl : names = [name]⟩ := singles _ given
  refine ⟨name, fun entry member same other inside => ?_⟩
  obtain ⟨collected, collectedMember, otherMember⟩ := keeps entry member other inside
  have keys := nodup_ofList (front ++ back)
  have found := lookup_eq_some_of_mem keys collectedMember
  rw [same, lookup_eq_some_of_mem keys kept, Option.some_inj] at found
  rw [← found] at otherMember
  exact List.mem_singleton.mp otherMember

end Imports

/-- The guard is imported from a module from which a controller imports nothing else. -/
def Settings.GuardApart (settings : Settings) (model : Model) : Prop :=
  settings.enableGuards = true → ∀ entry ∈ ArtifactKind.controller.imports settings model,
    entry.1 = settings.guardImport → entry.2 = [settings.guardName]

instance (settings : Settings) (model : Model) : Decidable (settings.GuardApart model) :=
  inferInstanceAs (Decidable (_ → ∀ entry ∈ ArtifactKind.controller.imports settings model,
    entry.1 = settings.guardImport → entry.2 = [settings.guardName]))

namespace Model

/-- What a controller imports from packages. -/
def packageImports (settings : Settings) (model : Model) : Imports :=
  [(commonModule, commonNames settings.enableGuards model.hasNumericId)]
    ++ (if settings.enableSwagger then [(swaggerModule, swaggerNames settings.enableGuards)] else [])

/-- What a controller imports from other artifacts. -/
def artifactImports (settings : Settings) (model : Model) : Imports :=
  (ArtifactKind.controller.uses settings).map (ArtifactKind.controller.reference model)

section
variable (settings : Settings) (model : Model)

theorem imports_controller_eq : ArtifactKind.controller.imports settings model =
    packageImports settings model
      ++ ((if settings.enableGuards then [(settings.guardImport, [settings.guardName])] else [])
        ++ artifactImports settings model) := by
  simp only [ArtifactKind.imports, ArtifactKind.outsideImports, packageImports, artifactImports,
    List.append_assoc]

theorem mem_imports_controller_iff {entry : String × List String} :
    entry ∈ ArtifactKind.controller.imports settings model ↔
      entry ∈ packageImports settings model ++ artifactImports settings model ∨
        settings.enableGuards = true ∧ entry = (settings.guardImport, [settings.guardName]) := by
  rw [imports_controller_eq, List.mem_append, List.mem_append, List.mem_append]
  cases settings.enableGuards <;> simp [or_assoc, or_comm]

theorem names_controller_imports : ∀ entry ∈ ArtifactKind.controller.imports settings model,
    entry.2 ≠ [] ∧ entry.2.Nodup := by
  have common : ∀ guarded numericId, commonNames guarded numericId ≠ [] ∧
      (commonNames guarded numericId).Nodup := by decide
  have documentation : ∀ guarded, swaggerNames guarded ≠ [] ∧ (swaggerNames guarded).Nodup := by decide
  have single (name : String) : [name] ≠ [] ∧ [name].Nodup :=
    ⟨List.cons_ne_nil _ _, List.nodup_singleton name⟩
  intro entry member
  rcases (mem_imports_controller_iff settings model).mp member with own | ⟨-, rfl⟩
  · simp only [packageImports, artifactImports, List.mem_append, List.mem_singleton, List.mem_map] at own
    rcases own with (rfl | documented) | ⟨kind, -, rfl⟩
    · exact common _ _
    · split at documented
      · rw [List.mem_singleton.mp documented]
        exact documentation _
      · cases documented
    · exact single _
  · exact single _

section
variable {settings : Settings} {model : Model} (label : IsLabel model.folderName)
include label

theorem nodup_artifactImports : ((artifactImports settings model).map Prod.fst).Nodup := by
  have kinds : (ArtifactKind.controller.uses settings).Nodup := by
    cases documented : settings.enableSwagger <;> simp [ArtifactKind.uses, documented]
  have target {kind : ArtifactKind} (used : kind ∈ ArtifactKind.controller.uses settings) :
      importTarget (ArtifactKind.controller.path model.folderName "ts")
        (ArtifactKind.controller.reference model kind).1 "ts" = kind.path model.folderName "ts" :=
    importTarget_reference label (by decide) used rfl
  rw [artifactImports, List.map_map]
  apply kinds.map_on
  intro kind used second secondUsed same
  rw [Function.comp_apply, Function.comp_apply] at same
  have paths := target used
  rw [same, target secondUsed] at paths
  exact (ArtifactKind.path_inj label label paths).2.symm

-- Packages and artifacts are modules of their own.
theorem nodup_modules :
    ((packageImports settings model ++ artifactImports settings model).map Prod.fst).Nodup := by
  have packages : (packageImports settings model).map Prod.fst ∈
      [[commonModule, swaggerModule], [commonModule]] := by
    cases documented : settings.enableSwagger <;> simp [packageImports, documented]
  have apart : ∀ sources ∈ [[commonModule, swaggerModule], [commonModule]], sources.Nodup ∧
      ∀ source ∈ sources, source.toList.head? = some '@' := by decide
  obtain ⟨single, signs⟩ := apart _ packages
  rw [List.map_append]
  refine single.append (nodup_artifactImports label) ?_
  intro source package artifact
  obtain ⟨entry, member, rfl⟩ := List.mem_map.mp artifact
  obtain ⟨kind, used, rfl⟩ := List.mem_map.mp member
  have point : (ArtifactKind.controller.reference model kind).1.toList.head? = some '.' := by
    cases kind <;>
      simp [ArtifactKind.reference, ArtifactKind.way, ArtifactKind.folders, String.intercalate_cons_cons]
  rw [signs _ package] at point
  cases point

variable (settings) in
/-- A controller keeps all names that it is given to import, unless its guard shares a module with
other names. -/
theorem keeps_controllerImports_iff : (model.controllerImports settings).Keeps
    (ArtifactKind.controller.imports settings model) ↔ settings.GuardApart model := by
  rw [controllerImports_eq]
  constructor
  · intro keeps guarded entry member same
    have all := imports_controller_eq settings model
    rw [guarded, if_pos rfl] at all
    have singles : ∀ entry ∈ [(settings.guardImport, [settings.guardName])] ++ artifactImports settings model,
        ∃ name, entry.2 = [name] := by
      rw [List.forall_mem_append, List.forall_mem_singleton]
      exact ⟨⟨_, rfl⟩, List.forall_mem_map.mpr fun kind _ => ⟨_, rfl⟩⟩
    rw [all] at keeps
    obtain ⟨name, only⟩ := Imports.eq_of_keeps keeps singles (by simp : settings.guardImport ∈ _)
    rw [← all] at only
    have guard := (mem_imports_controller_iff settings model).mpr (.inr ⟨guarded, rfl⟩)
    obtain rfl := only _ guard rfl settings.guardName (List.mem_singleton_self _)
    obtain ⟨nonempty, distinct⟩ := names_controller_imports settings model entry member
    exact eq_singleton_of_forall distinct nonempty (only entry member same)
  · intro apart
    apply Imports.keeps_ofList
    intro entry member other otherMember same
    rcases (mem_imports_controller_iff settings model).mp member with own | ⟨guarded, rfl⟩
    · rcases (mem_imports_controller_iff settings model).mp otherMember with otherOwn | ⟨guarded, rfl⟩
      · rw [List.inj_on_of_nodup_map (nodup_modules label) otherOwn own same]
      · exact (apart guarded entry member same.symm).symm
    · exact apart guarded other otherMember same

end

end

end Model

/-- A text has an import line with a name. -/
def ImportsName (text name : String) : Prop :=
  ∃ names source, name ∈ names ∧ HasLines text (importLine names source)

/-- A controller imports what it is given and what its code applies. -/
structure ImportsApplied (text : String) (width : Nat) (settings : Settings) (model : Model) : Prop where
  written : text = CodeLine.renderAll width
    ((model.controllerImports settings).codeBlock ++ model.controllerCode settings)
  given : ∀ entry ∈ ArtifactKind.controller.imports settings model, ∀ name ∈ entry.2,
    ∃ names, name ∈ names ∧ HasLines text (importLine names entry.1)
  guard : settings.enableGuards = true → guardLine settings ∈ model.controllerCode settings ∧
    ImportsName text "UseGuards" ∧ ImportsName text settings.guardName
  applied : ∀ line ∈ model.controllerCode settings, ¬ (settings.enableGuards = true ∧ line = guardLine settings) →
    ∀ symbol ∈ symbols line.text, ∀ name, Applies model symbol name → ImportsName text name

-- A name that is kept for a module is written in an import line of the module.
theorem hasLines_of_mem {imports : Imports} {source name : String} {names : List String}
    (member : (source, names) ∈ imports) (inside : name ∈ names) (code : List CodeLine) (width : Nat) :
    ∃ names, name ∈ names ∧
      HasLines (CodeLine.renderAll width (imports.codeBlock ++ code)) (importLine names source) := by
  have given : (source, names.eraseDups) ∈ imports.given :=
    List.mem_map.mpr ⟨_, List.mem_filter.mpr ⟨member, by simpa using List.ne_nil_of_mem inside⟩, rfl⟩
  have line : ⟨0, importLine names.eraseDups source⟩ ∈ imports.codeBlock ++ code := by
    rw [Imports.codeBlock_eq, if_neg (by simpa using List.ne_nil_of_mem given)]
    exact List.mem_append_left _ (List.mem_append_left _ (List.mem_map.mpr ⟨_, given, rfl⟩))
  have lines := CodeLine.hasLines_renderAll line width
  rw [CodeLine.render_zero] at lines
  exact ⟨_, List.mem_eraseDups.mpr inside, lines⟩

theorem importsApplied_of_keeps {settings : Settings} {model : Model} (word : IsWord model.name) (width : Nat)
    (keeps : (model.controllerImports settings).Keeps (ArtifactKind.controller.imports settings model)) :
    ImportsApplied (CodeLine.renderAll width (model.controllerLines settings)) width settings model := by
  rw [Model.controllerLines_eq]
  generalize written : CodeLine.renderAll width
    ((model.controllerImports settings).codeBlock ++ model.controllerCode settings) = text
  have given : ∀ entry ∈ ArtifactKind.controller.imports settings model, ∀ name ∈ entry.2,
      ∃ names, name ∈ names ∧ HasLines text (importLine names entry.1) := by
    intro entry member name inside
    obtain ⟨names, kept, nameKept⟩ := keeps entry member name inside
    rw [← written]
    exact hasLines_of_mem kept nameKept _ width
  have imported {entry : String × List String} (member : entry ∈ ArtifactKind.controller.imports settings model)
      {name : String} (inside : name ∈ entry.2) : ImportsName text name := by
    obtain ⟨names, listed, lines⟩ := given entry member name inside
    exact ⟨names, entry.1, listed, lines⟩
  refine ⟨written.symm, given, fun guarded => ⟨?_, ?_, ?_⟩, ?_⟩
  · simp [Model.controllerCode, Model.controllerDecorators, guarded, guardLine]
  · exact imported (ArtifactKind.commonNames_mem_imports settings model) (by simp [Model.commonNames, guarded])
  · have guard := (Model.mem_imports_controller_iff settings model).mpr (.inr ⟨guarded, rfl⟩)
    exact imported guard (List.mem_singleton_self _)
  · intro line member other symbol inside name applies
    have covered := (isCovered_controllerCode word line member).resolve_left other
    obtain ⟨entry, entryMember, nameMember⟩ := covered symbol inside name applies
    exact imported entryMember nameMember

namespace CodeWriter

/-- Whatever schema is read and whatever the settings are, a controller keeps all names that it is given
to import exactly if its guard shares no module with other names; and then the controller imports
everything that its code applies. -/
theorem controller_imports_applied {text : String} {source : Option String} {model : Model}
    (member : model ∈ (Schema.ofText text source).models) (writer : CodeWriter) :
    ((model.controllerImports writer.settings).Keeps (ArtifactKind.controller.imports writer.settings model) ↔
        writer.settings.GuardApart model) ∧
      (writer.settings.GuardApart model →
        ImportsApplied (writer.artifact .controller model) writer.width writer.settings model) := by
  have writable := Schema.writable_of_mem_models member
  have kept := Model.keeps_controllerImports_iff writer.settings writable.isLabel_folderName
  exact ⟨kept, fun apart => importsApplied_of_keeps writable.name writer.width (kept.mpr apart)⟩

/-- With the default settings, the guard of a controller is imported, and so is the decorator of a
request's body. -/
theorem controller_imports_applied_default :
    let writer := ofSettings {}
    ∃ model ∈ (Schema.ofText "model User \x7b\n id Int\n\x7d" none).models,
      writer.settings.GuardApart model ∧
      ((model.controllerImports writer.settings).Keeps (ArtifactKind.controller.imports writer.settings model) ↔
        writer.settings.GuardApart model) ∧
      ImportsApplied (writer.artifact .controller model) writer.width writer.settings model ∧
      ImportsName (writer.artifact .controller model) "JwtAuthGuard" ∧
      ImportsName (writer.artifact .controller model) "Body" := by
  intro writer
  obtain ⟨model, member, apart, line, lineMember, other, body⟩ :
      ∃ model ∈ (Schema.ofText "model User \x7b\n id Int\n\x7d" none).models,
        writer.settings.GuardApart model ∧ ∃ line ∈ model.controllerCode writer.settings,
          ¬ (writer.settings.enableGuards = true ∧ line = guardLine writer.settings) ∧
            "@Body" ∈ symbols line.text := by decide +kernel
  obtain ⟨kept, applied⟩ := controller_imports_applied member writer
  have imports := applied apart
  exact ⟨model, member, apart, kept, imports, (imports.guard rfl).2.2,
    imports.applied line lineMember other "@Body" body "Body" (.decorator "Body")⟩

/-- A guard from the module of the framework takes the place of all that a controller imports from there,
the decorator of a request's body among it. -/
theorem controller_applies_unimported :
    let writer := ofSettings { guardImport := "@nestjs/common" }
    ∃ model ∈ (Schema.ofText "model User \x7b\n id Int\n\x7d" none).models,
      ¬ (model.controllerImports writer.settings).Keeps (ArtifactKind.controller.imports writer.settings model) ∧
      (∃ line ∈ model.controllerCode writer.settings, "@Body" ∈ symbols line.text ∧
        HasLines (writer.artifact .controller model) (line.render writer.width)) ∧
      ∀ entry ∈ Imports.ofText (writer.artifact .controller model), "Body" ∉ entry.2 := by
  intro writer
  obtain ⟨model, member, shared, ⟨line, lineMember, body⟩, readable, absent⟩ :
      ∃ model ∈ (Schema.ofText "model User \x7b\n id Int\n\x7d" none).models,
        ¬ writer.settings.GuardApart model ∧
        (∃ line ∈ model.controllerCode writer.settings, "@Body" ∈ symbols line.text) ∧
        (∀ entry ∈ model.controllerImports writer.settings, Quotable entry.1 ∧ ∀ name ∈ entry.2, IsWord name) ∧
        ∀ entry ∈ (model.controllerImports writer.settings).given, "Body" ∉ entry.2 := by decide +kernel
  have writable := Schema.writable_of_mem_models member
  have isBody := Model.isBody_controllerCode writable (by decide : Lacks '\n' writer.settings.guardName)
  have kept := Model.keeps_controllerImports_iff writer.settings writable.isLabel_folderName
  have code : writer.artifact .controller model = CodeLine.renderAll writer.width
      ((model.controllerImports writer.settings).codeBlock ++ model.controllerCode writer.settings) := by
    rw [artifact, ArtifactKind.lines, Model.controllerLines_eq]
  refine ⟨model, member, mt kept.mp shared, ⟨line, lineMember, body, ?_⟩, ?_⟩
  · rw [code]
    exact CodeLine.hasLines_renderAll (List.mem_append_right _ lineMember) _
  · rw [code, Imports.ofText_renderAll isBody (List.ne_nil_of_mem lineMember) readable (by decide)]
    exact absent

end CodeWriter

end PrismaNest
