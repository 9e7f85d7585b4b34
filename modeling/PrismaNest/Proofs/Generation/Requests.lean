import PrismaNest.Proofs.Generation.Preview

/-! Requests for models.

A request is divided between what a run generates and what it reports as missing: a name is
generated for every model that has it, and missing if no model does. Which models are selected
depends on the names alone, not on their order and not on how often they come.
-/

set_option autoImplicit false

namespace PrismaNest

section
variable {α : Type} [BEq α] [LawfulBEq α]

theorem idxOf_append_of_mem_eraseDups {elements : List α} {element : α} (last : α)
    (member : element ∈ elements.eraseDups) :
    (elements ++ [last]).idxOf element = elements.idxOf element :=
  List.idxOf_append_of_mem (List.mem_eraseDups.mp member)

-- By induction from behind: a last element that came before is erased, any other one comes last.
theorem pairwise_idxOf_eraseDups (elements : List α) :
    elements.eraseDups.Pairwise fun one other => elements.idxOf one < elements.idxOf other := by
  induction elements using List.reverseRecOn with
  | nil => exact .nil
  | append_singleton elements last ih =>
    have kept : elements.eraseDups.Pairwise fun one other =>
        (elements ++ [last]).idxOf one < (elements ++ [last]).idxOf other := by
      refine ih.imp_of_mem fun {one other} member otherMember earlier => ?_
      rw [idxOf_append_of_mem_eraseDups last member, idxOf_append_of_mem_eraseDups last otherMember]
      exact earlier
    rw [List.eraseDups_append]
    by_cases again : last ∈ elements
    · have erased : [last].removeAll elements = [] := by simp [List.removeAll, again]
      rw [erased]
      simpa using kept
    · have fresh : ([last].removeAll elements).eraseDups = [last] := by
        simp [List.removeAll, again, List.eraseDups_cons]
      rw [fresh]
      refine List.pairwise_append.mpr ⟨kept, List.pairwise_singleton _ _, ?_⟩
      intro one member other isLast
      obtain rfl := List.mem_singleton.mp isLast
      rw [idxOf_append_of_mem_eraseDups other member, List.idxOf_append_of_notMem again]
      have early := List.idxOf_lt_length_of_mem (List.mem_eraseDups.mp member)
      omega

end

namespace Schema

variable {schema : Schema} {names others : List String} {name : String}

/-- A request divided into what is generated for it and what is missing. -/
structure Divides (schema : Schema) (names generated missing : List String) : Prop where
  /-- The names of all models that are asked for, in the order of the schema. -/
  generated_eq : generated = schema.modelNames.filter fun name => name ∈ names
  /-- A name of the request is in exactly one of the two. -/
  apart : ∀ name ∈ names, name ∈ generated ↔ name ∉ missing
  requested : missing ⊆ names
  single : missing.Nodup
  /-- The missing names come in the order in which they were first asked for. -/
  ordered : missing.Pairwise fun one other => names.idxOf one < names.idxOf other

theorem isNone_model?_iff : (schema.model? name).isNone = true ↔ name ∉ schema.modelNames := by
  rw [Option.isNone_iff_eq_none, model?, List.find?_eq_none, modelNames, List.mem_map]
  simp only [decide_eq_true_eq, not_exists, not_and]

theorem mem_missing_iff : name ∈ schema.missing names ↔ name ∈ names ∧ name ∉ schema.modelNames := by
  rw [missing, List.mem_filter, List.mem_eraseDups, isNone_model?_iff]

theorem pairwise_idxOf_missing (schema : Schema) (names : List String) :
    (schema.missing names).Pairwise fun one other => names.idxOf one < names.idxOf other :=
  (pairwise_idxOf_eraseDups names).filter _

theorem names_select (named : names ≠ []) (firstOnly : Bool) :
    (schema.select names firstOnly).map Model.name =
      schema.modelNames.filter fun name => name ∈ names := by
  rw [select, if_pos (by simpa using named), modelNames, List.filter_map]
  congr 2
  funext model
  simp

theorem names_select_nil (schema : Schema) (firstOnly : Bool) :
    (schema.select [] firstOnly).map Model.name =
      if firstOnly then schema.modelNames.take 1 else schema.modelNames := by
  cases firstOnly with
  | true => exact List.map_take
  | false => rfl

theorem divides_select (named : names ≠ []) (firstOnly : Bool) :
    schema.Divides names ((schema.select names firstOnly).map Model.name) (schema.missing names) where
  generated_eq := names_select named firstOnly
  apart := by
    intro name member
    rw [names_select named, List.mem_filter, mem_missing_iff]
    simp [member]
  requested := fun _ member => (mem_missing_iff.mp member).1
  single := by
    refine (schema.pairwise_idxOf_missing names).imp ?_
    rintro one _ earlier rfl
    exact Nat.lt_irrefl _ earlier
  ordered := schema.pairwise_idxOf_missing names

-- Only the membership of a name is looked at.
theorem select_congr (same : ∀ name, name ∈ others ↔ name ∈ names) (firstOnly : Bool) :
    schema.select others firstOnly = schema.select names firstOnly := by
  have empty : others = [] ↔ names = [] := by
    simp only [List.eq_nil_iff_forall_not_mem, same]
  have wanted : ∀ name, others.contains name = names.contains name := by
    intro name
    rw [Bool.eq_iff_iff, List.contains_iff_mem, List.contains_iff_mem, same]
  simp only [select, wanted, Bool.not_eq_true', List.isEmpty_eq_false_iff, ne_eq, empty]

end Schema

namespace Generator

open Workspace PrismaNest.Action

variable {generator : Generator} {schema : Schema} {names others : List String}

theorem selection_congr (same : ∀ name, name ∈ others ↔ name ∈ names) :
    generator.selection schema others = generator.selection schema names :=
  Schema.select_congr same _

theorem filesOf_congr (same : ∀ name, name ∈ others ↔ name ∈ names) :
    generator.filesOf schema others = generator.filesOf schema names := by
  rw [filesOf, filesOf, selection_congr same]

theorem reportAt_congr (same : ∀ name, name ∈ others ↔ name ∈ names) (clock : Clock)
    (schemaFile : String) (output : Path) (steps : List Step) :
    generator.reportAt clock schema schemaFile output others steps =
      { generator.reportAt clock schema schemaFile output names steps with
        missing := schema.missing others } := by
  simp only [reportAt, filesOf_congr same, selection_congr same]

-- Both runs amount to one export, so they fail alike and leave the same; and then they report alike.
theorem run_congr (same : ∀ name, name ∈ others ↔ name ∈ names) (schemaFile : String)
    (output : Path) (steps : List Step) (before : Workspace) :
    let run (names : List String) := (generator.run schema schemaFile output names steps).result before
    (run others).1 =
        (run names).1.map (fun report => { report with missing := schema.missing others }) ∧
      (run others).2.SameButLog (run names).2 := by
  intro run
  have amounts := generator.run_amountsTo schema schemaFile output others steps
  rw [filesOf_congr same] at amounts
  have alike := amounts.trans (generator.run_amountsTo schema schemaFile output names steps).symm
  obtain ⟨failure, afterToo, after, ranToo, ran, files⟩ |
    ⟨reportToo, report, afterToo, after, ranToo, ran, files⟩ := alike.result_cases (.refl before)
  · simp only [run, ranToo, ran]
    exact ⟨rfl, files, (clock_of_run_failed ranToo).trans (clock_of_run_failed ran).symm⟩
  · obtain ⟨told, clock⟩ := report_of_run ran
    obtain ⟨toldToo, clockToo⟩ := report_of_run ranToo
    simp only [run, ranToo, ran]
    refine ⟨congrArg Except.ok ?_, files, clockToo.trans clock.symm⟩
    rw [toldToo, told, reportAt_congr same]

/-- A run divides the names that it is asked for. Without any names it generates all models, or the
first if the settings say so. Names in another order, or named again, give the same files, the same
failure, and the same report but for the order of what is missing. -/
theorem run_divides_request (generator : Generator) (schema : Schema) (schemaFile : String)
    (output : Path) (names : List String) (steps : List Step) (before : Workspace) :
    let run (names : List String) := (generator.run schema schemaFile output names steps).result before
    (∀ report after, run names = (.ok report, after) → report.found = schema.modelNames ∧
      (names ≠ [] → schema.Divides names report.generated report.missing) ∧
      (names = [] → report.missing = [] ∧ report.generated =
        if generator.settings.firstModelOnly then report.found.take 1 else report.found)) ∧
    ∀ others, (∀ name, name ∈ others ↔ name ∈ names) →
      generator.filesOf schema others = generator.filesOf schema names ∧
      (run others).1 =
        (run names).1.map (fun report => { report with missing := schema.missing others }) ∧
      (run others).2.SameButLog (run names).2 := by
  intro run
  refine ⟨fun report after ran => ?_, fun others same =>
    ⟨filesOf_congr same, run_congr same schemaFile output steps before⟩⟩
  rw [(report_of_run ran).1]
  refine ⟨rfl, fun named => Schema.divides_select named _, ?_⟩
  rintro rfl
  exact ⟨rfl, schema.names_select_nil _⟩

/-- Two models of one name, and a request that names them, another one, and what no model is. -/
theorem run_divides_request_repeated :
    let generator : Generator := ⟨.ofSettings {}, true⟩
    let schema : Schema := ⟨[⟨"B", []⟩, ⟨"A", []⟩, ⟨"C", []⟩, ⟨"B", []⟩], [], none⟩
    let names := ["Y", "A", "X", "B", "Y", "A"]
    let before : Workspace := ⟨⟨[]⟩, [], .zero false, []⟩
    let run (names : List String) := (generator.run schema "s" ⟨"", ["out"]⟩ names []).result before
    (∃ report after, run names = (.ok report, after) ∧ report.generated = ["B", "A", "B"] ∧
        schema.Divides names report.generated report.missing) ∧
      generator.filesOf schema ["B", "X", "Y", "A"] = generator.filesOf schema names := by
  intro generator schema names before run
  obtain ⟨report, after, ran, -⟩ :=
    @onlyLogs_run generator rfl schema "s" ⟨"", ["out"]⟩ names [] before
  obtain ⟨divided, others⟩ := run_divides_request generator schema "s" ⟨"", ["out"]⟩ names [] before
  have divides := (divided report after ran).2.1 (by decide)
  have sameNames : ∀ name, name ∈ ["B", "X", "Y", "A"] ↔ name ∈ names := by
    intro name
    simp only [names, List.mem_cons, List.not_mem_nil, or_false]
    grind
  refine ⟨⟨report, after, ran, ?_, divides⟩, (others _ sameNames).1⟩
  rw [divides.generated_eq]
  decide

end Generator

end PrismaNest
