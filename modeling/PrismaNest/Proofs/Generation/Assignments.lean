import PrismaNest.Proofs.Code.Indentation
import PrismaNest.Proofs.Generation.Stages

/-! Generators in use whose settings are assigned anew.

Whatever is assigned to a generator, it generates the files of a new generator with the settings that
it has come to have, but for the width of indentation: that one stays as it was when the generator
was made. So it departs from a new generator as soon as another width has been assigned and any
model is generated.
-/

set_option autoImplicit false

namespace PrismaNest

section
variable {settings : Settings} {model : Model}

-- The lines of a file do not depend on the width that they are indented by.
theorem ArtifactKind.lines_indentSize (size : Nat) (kind : ArtifactKind) :
    kind.lines { settings with indentSize := size } model = kind.lines settings model := by
  cases kind <;> rfl

theorem Model.exists_indented_wiringLines :
    ∃ line ∈ model.wiringLines settings, line.level ≠ 0 :=
  ⟨⟨1, "controllers: [" ++ model.controllerName ++ "],"⟩, by simp [wiringLines], Nat.one_ne_zero⟩

theorem exists_indented_baseQueryLines : ∃ line ∈ baseQueryLines settings, line.level ≠ 0 :=
  ⟨⟨1, "@IsOptional()"⟩, by simp [baseQueryLines, pagingKeyLines], Nat.one_ne_zero⟩

end

theorem CodeLine.eq_of_renderAll_eq {width other : Nat} {lines : List CodeLine}
    (same : renderAll width lines = renderAll other lines)
    (indented : ∃ line ∈ lines, line.level ≠ 0) : width = other := by
  obtain ⟨line, member, deep⟩ := indented
  exact (renderAll_eq_iff.mp same).resolve_right fun flat => deep (flat line member)

namespace CodeWriter

variable {settings : Settings} {width other : Nat}

theorem files_indentSize (size width : Nat) (models : List Model) :
    files ⟨{ settings with indentSize := size }, width⟩ models = files ⟨settings, width⟩ models := by
  have ofModel : ∀ model, modelFiles ⟨{ settings with indentSize := size }, width⟩ model =
      modelFiles ⟨settings, width⟩ model := by
    intro model
    simp only [modelFiles, artifact, ArtifactKind.lines_indentSize]
  simp only [files, ofModel]
  rfl

theorem lookup_wiring_concat {writer : CodeWriter} (bare : writer.settings.generateCommon = false)
    (models : List Model) (last : Model) :
    (writer.files (models ++ [last])).lookup (writer.pathOf .wiring last) =
      some (writer.artifact .wiring last) := by
  rw [files_eq, bare, if_neg (fun both => nomatch both.2), artifacts_concat]
  -- The module is the last of the seven artifacts that are put.
  exact (lookup_putEntry _ _ _ _).trans (if_pos rfl)

-- Of any models, some file is indented: the base query, or the module of the last one.
theorem width_eq_of_files_eq {models : List Model} (selected : models ≠ [])
    (same : files ⟨settings, width⟩ models = files ⟨settings, other⟩ models) : width = other := by
  cases common : settings.generateCommon with
  | true =>
    have one := @lookup_baseQuery ⟨settings, width⟩ common models selected
    have two := @lookup_baseQuery ⟨settings, other⟩ common models selected
    rw [same] at one
    exact CodeLine.eq_of_renderAll_eq (Option.some.inj (one.symm.trans two))
      exists_indented_baseQueryLines
  | false =>
    obtain ⟨models, last, rfl⟩ := (List.eq_nil_or_concat' models).resolve_left selected
    have one := @lookup_wiring_concat ⟨settings, width⟩ common models last
    have two := @lookup_wiring_concat ⟨settings, other⟩ common models last
    rw [same] at one
    exact CodeLine.eq_of_renderAll_eq (Option.some.inj (one.symm.trans two))
      Model.exists_indented_wiringLines

theorem files_eq_iff {models : List Model} :
    files ⟨settings, width⟩ models = files ⟨settings, other⟩ models ↔
      models = [] ∨ width = other := by
  constructor
  · intro same
    by_cases selected : models = []
    · exact .inl selected
    · exact .inr (width_eq_of_files_eq selected same)
  · rintro (rfl | rfl)
    · simp [files_eq, artifacts]
    · rfl

end CodeWriter

namespace Generator

-- What is assigned to a generator is assigned to its settings, and the width stays.
theorem assign_getD (name : String) (value : Value) (generator : Generator) :
    (generator.assign name value).toOption.getD generator =
      generator.withSettings
        ((Settings.shape.assign name value generator.settings).toOption.getD generator.settings) := by
  rw [assign]
  cases Settings.shape.assign name value generator.settings <;> rfl

theorem assignAll_eq (assignments : List (String × Value)) (generator : Generator) :
    generator.assignAll assignments =
      generator.withSettings (Settings.shape.assignAll assignments generator.settings) := by
  induction assignments generalizing generator with
  | nil => rfl
  | cons assignment assignments ih =>
    rw [assignAll, List.foldl_cons, assign_getD, Shape.assignAll, List.foldl_cons]
    exact ih _

/-- A generator in use has the settings that were assigned to it, and generates what a new generator
with these settings and the first width of indentation generates. This is what one with these
settings generates exactly if the width is still the same or no model is selected. -/
theorem filesOf_assignAll (settings : Settings) (dryRun : Bool)
    (assignments : List (String × Value)) (schema : Schema) (names : List String) :
    let used := (ofSettings settings dryRun).assignAll assignments
    let final := Settings.shape.assignAll assignments settings
    used.settings = final ∧
      used.filesOf schema names =
        (ofSettings { final with indentSize := settings.indentSize } dryRun).filesOf schema names ∧
      (used.filesOf schema names = (ofSettings final dryRun).filesOf schema names ↔
        used.selection schema names = [] ∨ settings.indentSize = final.indentSize) := by
  intro used final
  have same : used = (ofSettings settings dryRun).withSettings final := assignAll_eq _ _
  rw [same]
  refine ⟨rfl, (CodeWriter.files_indentSize _ _ _).symm, ?_⟩
  exact CodeWriter.files_eq_iff

/-- Where the width of indentation is assigned, only a new generator takes it up. -/
theorem not_filesOf_assignAll_indentSize :
    let assignments : List (String × Value) := [("indent_size", .int 4)]
    let used := (ofSettings {} false).assignAll assignments
    let schema := Schema.ofText "model A \x7b\n id Int\n\x7d" none
    used.settings = { indentSize := 4 } ∧
      used.filesOf schema [] ≠ (ofSettings used.settings false).filesOf schema [] := by
  decide +kernel

end Generator

end PrismaNest
