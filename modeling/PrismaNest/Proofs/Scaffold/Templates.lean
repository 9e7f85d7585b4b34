import PrismaNest.Command.Scaffold
import PrismaNest.Proofs.Workspace.Reading

/-! Reading the templates of a resource.

All templates are read before a file is written. If one of them cannot be read, or nothing is left
of the name, then nothing happens at all: neither to the tree, nor in the command, which ends with
the status for its input.
-/

set_option autoImplicit false

namespace PrismaNest

open Workspace

theorem Text.eq_toUTF8_of_decodeUtf8 {bytes : ByteArray} {text : String}
    (decoded : Text.decodeUtf8 bytes = .ok text) : bytes = text.toUTF8 := by
  rw [Text.decodeUtf8] at decoded
  split at decoded
  · rename_i found valid
    cases decoded
    rw [String.fromUTF8?] at valid
    split at valid
    · cases valid
      rfl
    · cases valid
  · cases decoded

theorem Action.readText_of_unheld {path : Path} {before : Workspace}
    (unheld : ∀ text, ¬ before.HoldsText path text) :
    ∃ failure, failure.isUnexpected = false ∧
      (readText path).result before = (.error failure, before) := by
  rw [result_readText]
  by_cases null : path.hasNull = true
  · rw [if_pos null]
    exact ⟨_, rfl, rfl⟩
  · rw [if_neg null]
    cases read : before.tree.read before.home path with
    | error fault => exact ⟨_, rfl, rfl⟩
    | ok bytes =>
      dsimp only
      cases decoded : Text.decodeUtf8 bytes with
      | error fault => exact ⟨_, rfl, rfl⟩
      | ok text =>
        have holds : before.HoldsText path text :=
          ⟨Bool.of_not_eq_true null, read.trans (congrArg _ (Text.eq_toUTF8_of_decodeUtf8 decoded))⟩
        exact absurd holds (unheld text)

namespace Scaffold

/-- The text that a template has for a resource: the built-in one, or the one in a folder, with a
line feed for each of its line ends. -/
inductive HasTemplate (templates : Option String) (workspace : Workspace) (file : ResourceFile) :
    String → Prop
  | builtIn (noFolder : templates.filter (· ≠ "") = none) :
    HasTemplate templates workspace file file.builtIn
  | stored {folder text : String} (given : templates.filter (· ≠ "") = some folder)
    (held : workspace.HoldsText ((Path.ofText folder).under (.ofText file.template)) text) :
    HasTemplate templates workspace file (.ofList (Text.normalizeLineEnds text.toList))

variable {given : String} {templates : Option String} {before : Workspace}
  {file : ResourceFile} {files : List ResourceFile} {text : ResourceFile → String}

theorem result_template {text : String} (has : HasTemplate templates before file text) :
    (template templates file).result before = (.ok text, before) := by
  cases has with
  | builtIn noFolder =>
    rw [template, noFolder]
    rfl
  | stored given held =>
    rw [template, given]
    exact Action.readText_of_read held.noNull held.content

theorem template_of_hasNone (hasNone : ∀ text, ¬ HasTemplate templates before file text) :
    ∃ failure, failure.isUnexpected = false ∧
      (template templates file).result before = (.error failure, before) := by
  rw [template]
  cases given : templates.filter (· ≠ "") with
  | none => exact absurd (.builtIn given) (hasNone file.builtIn)
  | some folder => exact Action.readText_of_unheld fun text held => hasNone _ (.stored given held)

/-- The paths of some files of a resource, each with what its template gives. -/
def filled (text : ResourceFile → String) (name : String) (files : List ResourceFile) :
    List (String × String) :=
  files.map fun file => (file.target name, Template.render (text file) name)

theorem result_renderAll (name : String)
    (has : ∀ file ∈ files, HasTemplate templates before file (text file)) :
    (renderAll templates name files).result before = (.ok (filled text name files), before) := by
  induction files with
  | nil => rfl
  | cons file files ih =>
    have first := result_template (has file List.mem_cons_self)
    have rest := ih fun other member => has other (List.mem_cons_of_mem file member)
    simp only [renderAll, Action.result_bind, first, rest]
    rfl

-- It does not matter at which place the template is that cannot be read.
theorem renderAll_of_hasNone (name : String)
    (missing : ∃ file ∈ files, ∀ text, ¬ HasTemplate templates before file text) :
    ∃ failure, failure.isUnexpected = false ∧
      (renderAll templates name files).result before = (.error failure, before) := by
  induction files with
  | nil =>
    obtain ⟨file, member, -⟩ := missing
    cases member
  | cons file files ih =>
    by_cases there : ∃ text, HasTemplate templates before file text
    · obtain ⟨text, has⟩ := there
      have later : ∃ file ∈ files, ∀ text, ¬ HasTemplate templates before file text := by
        obtain ⟨other, member, hasNone⟩ := missing
        rcases List.mem_cons.mp member with rfl | further
        · exact absurd has (hasNone text)
        · exact ⟨other, further, hasNone⟩
      obtain ⟨failure, expected, failed⟩ := ih later
      refine ⟨failure, expected, ?_⟩
      simp only [renderAll, Action.result_bind, result_template has, failed]
    · obtain ⟨failure, expected, failed⟩ := template_of_hasNone (not_exists.mp there)
      refine ⟨failure, expected, ?_⟩
      simp only [renderAll, Action.result_bind, failed]

/-- A name without the blanks around it. -/
def trimmed (given : String) : String :=
  String.ofList (Text.trim given.toList)

theorem result_resourceName (given : String) (before : Workspace) :
    (resourceName given).result before =
      (if trimmed given = "" then .error .blankName else .ok (trimmed given), before) := by
  rw [resourceName, trimmed]
  split <;> rfl

/-- Nothing is left of the name of a resource, or a template cannot be read: there is no file, or it
is no text. -/
inductive Unready (given : String) (templates : Option String) (before : Workspace) : Prop
  | blank (nothing : trimmed given = "")
  | missing (file : ResourceFile) (listed : file ∈ ResourceFile.all)
    (hasNone : ∀ text, ¬ HasTemplate templates before file text)

theorem run_of_missing
    (missing : ∃ file ∈ ResourceFile.all, ∀ text, ¬ HasTemplate templates before file text)
    (given output : String) : ∃ failure, failure.isUnexpected = false ∧
      (run given output templates).result before = (.error failure, before) := by
  simp only [run, Action.result_bind, result_resourceName]
  by_cases blank : trimmed given = ""
  · rw [if_pos blank]
    exact ⟨_, rfl, rfl⟩
  · rw [if_neg blank]
    obtain ⟨failure, expected, failed⟩ := renderAll_of_hasNone (trimmed given) missing
    refine ⟨failure, expected, ?_⟩
    simp only [failed]

theorem run_of_unready (unready : Unready given templates before) (output : String) :
    ∃ failure, failure.isUnexpected = false ∧
      (run given output templates).result before = (.error failure, before) := by
  cases unready with
  | blank nothing =>
    refine ⟨.blankName, rfl, ?_⟩
    simp only [run, Action.result_bind, result_resourceName, if_pos nothing]
  | missing file listed hasNone => exact run_of_missing ⟨file, listed, hasNone⟩ given output

end Scaffold

namespace ScaffoldCommand

open Scaffold

/-- The folder of templates that a request names. -/
def Request.folder? (request : Request) : Option String :=
  match request.templates with
  | some (.text folder) => some folder
  | _ => none

variable {request : Request} {before : Workspace}

-- An option that has lost its value is the one failure that the command has no message for.
theorem scaffold_of_unready (unready : Unready request.name request.folder? before) :
    ∃ failure, (failure.isUnexpected = true → request.output = .dropped) ∧
      (scaffold request).result before = (.error failure, before) := by
  by_cases blank : trimmed request.name = ""
  · refine ⟨.blankName, nofun, ?_⟩
    simp only [scaffold, Action.result_bind, result_resourceName, if_pos blank]
  · cases unready with
    | blank nothing => exact absurd nothing blank
    | missing file listed hasNone =>
      simp only [scaffold, Action.result_bind, result_resourceName, if_neg blank]
      cases request.output with
      | dropped => exact ⟨.noPath, fun _ => rfl, rfl⟩
      | text output =>
        obtain ⟨failure, expected, failed⟩ :=
          run_of_missing ⟨file, listed, hasNone⟩ (trimmed request.name) output
        refine ⟨failure, fun unexpected => ?_, failed⟩
        rw [expected] at unexpected
        cases unexpected

theorem run_of_unready {arguments : List String} (understood : Request.read arguments = .ok request)
    (unready : Unready request.name request.folder? before) :
    ((run arguments).result before).2.tree = before.tree ∧
      ∀ output, request.output = .text output → ∃ outcome,
        ((run arguments).result before).1 = .ok outcome ∧ outcome.status = .inputFailure := by
  have fresh : Unready request.name request.folder? { before with events := [] } := by
    cases unready with
    | blank nothing => exact .blank nothing
    | missing file listed hasNone =>
      refine .missing file listed fun text has => hasNone text ?_
      cases has with
      | builtIn noFolder => exact .builtIn noFolder
      | stored given held => exact .stored given ⟨held.noNull, held.content⟩
  obtain ⟨failure, onlyDropped, failed⟩ := scaffold_of_unready fresh
  simp only [run, understood, Action.asCommand, work, Action.result_bind, Action.result_modify,
    Action.result_attempt, failed]
  by_cases unexpected : failure.isUnexpected = true
  · rw [if_pos unexpected]
    refine ⟨rfl, fun output named => ?_⟩
    rw [onlyDropped unexpected] at named
    cases named
  · rw [if_neg unexpected]
    exact ⟨rfl, fun _ _ => ⟨_, rfl, rfl⟩⟩

end ScaffoldCommand

end PrismaNest
