import PrismaNest.Proofs.Export.Delivered
import PrismaNest.Proofs.Scaffold.Templates
import PrismaNest.Proofs.Workspace.Amounts

/-! Where the files of a resource go.

The files of a resource are written as an export into its folder. For a name that leads one step
down they are five files of their own, and none is written where another makes a folder. As they
were all filled in before, it makes no difference where the templates lie.
-/

set_option autoImplicit false

namespace PrismaNest

open Text Workspace

namespace ResourceFile

variable {file first second : ResourceFile} {name : String}

/-- Two files of a resource are told apart by the length of what stands around the name, or by what
stands in front of it. -/
def Differs (first second : ResourceFile) : Prop :=
  first.before.length + first.behind.length ≠ second.before.length + second.behind.length ∨
    first.before.length = second.before.length ∧ first.before ≠ second.before

instance (first second : ResourceFile) : Decidable (Differs first second) :=
  inferInstanceAs (Decidable (_ ∨ _))

theorem Differs.target_ne (apart : Differs first second) (name : String) :
    first.target name ≠ second.target name := by
  intro same
  rcases apart with lengths | ⟨aligned, fronts⟩
  · have long := congrArg String.length same
    simp only [target, String.length_append] at long
    omega
  · have texts := congrArg String.toList same
    simp only [target, String.toList_append, List.append_assoc] at texts
    exact fronts (String.ext (List.append_inj_left texts aligned))

theorem differ : all.Pairwise Differs := by
  decide

theorem nodup_targets (name : String) : (all.map fun file => file.target name).Nodup :=
  List.pairwise_map.mpr (differ.imp fun apart => apart.target_ne name)

/-- How many names lead to a file of a resource. -/
def depth (file : ResourceFile) : Nat :=
  if file.before = "" then 1 else 2

theorem isName_between {opening ending : String} (proper : IsName name) (plain : Lacks '/' opening)
    (plainEnd : Lacks '/' ending) (long : 2 < ending.length) :
    IsName (opening ++ name ++ ending) := by
  refine isName_of_length ?_ ?_
  · simp only [String.length_append]
    omega
  · simp only [lacks_append]
    exact ⟨⟨plain, proper.noSlash⟩, plainEnd⟩

theorem spells_target (proper : IsName name) (listed : file ∈ all) :
    ∃ names, Path.Spells names (file.target name) ∧ names.length = file.depth := by
  have atTop : ∀ ending, Lacks '/' ending → 2 < ending.length →
      Path.Spells ["" ++ name ++ ending] ("" ++ name ++ ending) := by
    intro ending plain long
    refine ⟨List.cons_ne_nil _ _, fun other member => ?_, String.intercalate_singleton.symm⟩
    rw [List.mem_singleton.mp member]
    exact isName_between proper (by decide) plain long
  have inFolder : ∀ opening ending, Lacks '/' opening → Lacks '/' ending → 2 < ending.length →
      Path.Spells ["dto", opening ++ name ++ ending] ("dto/" ++ opening ++ name ++ ending) := by
    intro opening ending plain plainEnd long
    refine ⟨List.cons_ne_nil _ _, fun other member => ?_, ?_⟩
    · rcases List.mem_pair.mp member with rfl | rfl
      · decide
      · exact isName_between proper plain plainEnd long
    · simp [String.intercalate_cons_cons, String.append_assoc]
  simp only [all, List.mem_cons, List.not_mem_nil, or_false] at listed
  rcases listed with rfl | rfl | rfl | rfl | rfl
  · exact ⟨_, atTop ".module.ts" (by decide) (by decide), rfl⟩
  · exact ⟨_, atTop ".controller.ts" (by decide) (by decide), rfl⟩
  · exact ⟨_, atTop ".service.ts" (by decide) (by decide), rfl⟩
  · exact ⟨_, inFolder "create-" ".dto.ts" (by decide) (by decide) (by decide), rfl⟩
  · exact ⟨_, inFolder "update-" ".dto.ts" (by decide) (by decide) (by decide), rfl⟩

end ResourceFile

namespace Scaffold

variable {given name output : String} {templates : Option String} {before middle after : Workspace}
  {text : ResourceFile → String}

/-- The folder of a resource. -/
def folder (output name : String) : Path :=
  (Path.ofText output).under (.ofText name)

/-- What writes into the folder of a resource. -/
def exporter (folder : Path) : Exporter :=
  ⟨{}, folder, true, false⟩

theorem writeAll_cons (folder : Path) (file : String × String) (rest : List (String × String)) :
    writeAll folder (file :: rest) =
      Action.writeText (folder.under (.ofText file.1)) file.2 true >>= fun _ =>
        Action.log .debug .scaffold ("Wrote " ++ (folder.under (.ofText file.1)).toText) >>= fun _ =>
          writeAll folder rest :=
  rfl

theorem exporter_writeAll_cons (folder : Path) (file : String × String) (rest : FileSet) :
    (exporter folder).writeAll (file :: rest) =
      Action.writeText (folder.under (.ofText file.1)) file.2 true >>= fun _ =>
        (exporter folder).writeAll rest := by
  have alone : (exporter folder).writeFile file =
      Action.writeText (folder.under (.ofText file.1)) file.2 true >>= fun _ => pure () :=
    if_neg Bool.false_ne_true
  rw [Exporter.writeAll, alone, bind_assoc]
  simp only [pure_bind]

-- But for the log, the files of a resource are written as those of an export.
theorem writeAll_amountsTo (folder : Path) (files : FileSet) :
    Action.AmountsTo (writeAll folder files) ((exporter folder).writeAll files) := by
  induction files with
  | nil => exact (Action.seesFiles_pure ()).amountsTo
  | cons file files ih =>
    rw [writeAll_cons, exporter_writeAll_cons]
    refine (Action.seesFiles_writeText _ _ _).amountsTo.bind fun _ _ => ?_
    exact (Action.onlyLogs_log _ _ _).before_core fun _ _ _ _ => ih

/-- Each file of a resource holds what its template gives, and all other files are as before. -/
structure Delivers (folder : Path) (name : String) (text : ResourceFile → String)
    (before after : Workspace) : Prop where
  written : ∀ file ∈ ResourceFile.all,
    after.tree.content? ((exporter folder).location before.home (file.target name)) =
      some (Template.render (text file) name).toUTF8
  elsewhere : ∀ location, (∀ file ∈ ResourceFile.all,
      location ≠ (exporter folder).location before.home (file.target name)) →
    after.tree.content? location = before.tree.content? location

-- None of the five files comes to lie above another.
theorem targets_apart {folder : Path} {home : Location} (proper : IsName name)
    (aside : ∀ file ∈ ResourceFile.all,
      ¬ folder.Crosses home ((exporter folder).location home (file.target name))) :
    (filled text name ResourceFile.all).Pairwise fun first second =>
      (exporter folder).Apart home first.1 second.1 := by
  have deeper : ResourceFile.all.Pairwise fun first second => first.depth ≤ second.depth := by
    decide
  refine List.pairwise_map.mpr ((deeper.and ResourceFile.differ).imp_of_mem ?_)
  intro first second listed later ⟨notAbove, apart⟩
  obtain ⟨names, spelled, long⟩ := ResourceFile.spells_target proper listed
  obtain ⟨others, elsewhere, longOther⟩ := ResourceFile.spells_target proper later
  have different : ¬ others <+: names := by
    intro above
    have same : others = names := above.eq_of_length_le (by omega)
    exact apart.target_ne name (spelled.text.trans (same ▸ elsewhere.text.symm))
  have alone : (exporter folder).LeavesAlone home (first.target name) (second.target name) :=
    Exporter.leavesAlone_of_spells spelled elsewhere (aside second later) different
  exact ⟨alone.1, fun _ => alone.2⟩

/-- Where the files of a resource go there is no folder, nor does the path to its folder pass there. -/
def IsClear (folder : Path) (name : String) (workspace : Workspace) : Prop :=
  ∀ file ∈ ResourceFile.all, (exporter folder).Clear workspace (file.target name)

theorem writeAll_delivers {folder : Path} (proper : IsName name) (clear : IsClear folder name before)
    (wrote : (writeAll folder (filled text name ResourceFile.all)).result before = (.ok (), after)) :
    Delivers folder name text before after := by
  have isOpen : ∀ file ∈ filled text name ResourceFile.all, (exporter folder).Open before file.1 := by
    intro file member
    obtain ⟨resourceFile, listed, rfl⟩ := List.mem_map.mp member
    obtain ⟨names, spelled, -⟩ := ResourceFile.spells_target proper listed
    exact (clear resourceFile listed).isOpen spelled
  obtain ⟨done, -, complete, added⟩ := Exporter.writeAll_adds rfl (filled text name ResourceFile.all)
    (fun _ => isOpen) (targets_apart proper fun file listed => (clear file listed).notPassed)
  obtain ⟨later, ⟨_, ran⟩, same⟩ := (writeAll_amountsTo folder _).leaves ⟨(), wrote⟩
  rw [ran] at complete added
  rw [complete rfl] at added
  have added := added.congr same.home same.tree
  constructor
  · intro file listed
    refine added.content?_of_mem (List.mem_map.mpr ⟨(file.target name, _), ?_, rfl⟩)
    exact List.mem_map.mpr ⟨file, listed, rfl⟩
  · intro location outside
    refine added.content?_elsewhere (Exporter.not_mem_deliveries ?_)
    intro file member
    obtain ⟨resourceFile, listed, rfl⟩ := List.mem_map.mp member
    exact outside resourceFile listed

theorem run_of_writeAll (named : trimmed given ≠ "")
    (has : ∀ file ∈ ResourceFile.all, HasTemplate templates before file (text file))
    (wrote : (writeAll (folder output (trimmed given))
      (filled text (trimmed given) ResourceFile.all)).result before = (.ok (), middle)) :
    ∃ after, (run given output templates).result before =
        (.ok ⟨trimmed given, folder output (trimmed given),
          ResourceFile.all.map fun file => file.target (trimmed given)⟩, after) ∧
      middle.SameFiles after := by
  have filledIn := result_renderAll (trimmed given) has
  have targets : (filled text (trimmed given) ResourceFile.all).map Prod.fst =
      ResourceFile.all.map fun file => file.target (trimmed given) := by
    rw [filled, List.map_map]
    rfl
  rw [folder] at wrote
  simp only [run, Action.result_bind, result_resourceName, if_neg named, filledIn, wrote,
    Action.result_log, Action.result_pure, targets]
  exact ⟨_, rfl, rfl, rfl⟩

/-- All templates are read before anything is written. If nothing is left of the name, or some
template cannot be read, then the tree stays as it is, and the command ends with the status for its
input, unless its output has lost its value. Otherwise, as long as all can be written, a name that
leads one step down gets its five files, and each holds what its template gave before. -/
theorem run_reads_first (given output : String) (templates : Option String) (before : Workspace) :
    (Unready given templates before →
      (∃ failure, (run given output templates).result before = (.error failure, before)) ∧
      ∀ arguments request, ScaffoldCommand.Request.read arguments = .ok request →
        request.name = given → request.folder? = templates →
        ((ScaffoldCommand.run arguments).result before).2.tree = before.tree ∧
        ∀ named, request.output = .text named → ∃ outcome,
          ((ScaffoldCommand.run arguments).result before).1 = .ok outcome ∧
            outcome.status = .inputFailure) ∧
    ∀ text, (∀ file ∈ ResourceFile.all, HasTemplate templates before file (text file)) →
      IsName (trimmed given) →
      IsClear (folder output (trimmed given)) (trimmed given) before →
      ((writeAll (folder output (trimmed given))
        (filled text (trimmed given) ResourceFile.all)).result before).1 = .ok () →
      ∃ result after, (run given output templates).result before = (.ok result, after) ∧
        result.files = ResourceFile.all.map (fun file => file.target (trimmed given)) ∧
        result.files.Nodup ∧
        Delivers (folder output (trimmed given)) (trimmed given) text before after := by
  constructor
  · intro unready
    obtain ⟨failure, -, failed⟩ := run_of_unready unready output
    refine ⟨⟨failure, failed⟩, ?_⟩
    rintro arguments request understood rfl rfl
    exact ScaffoldCommand.run_of_unready understood unready
  · intro text has proper clear wrote
    rcases ran : (writeAll (folder output (trimmed given))
      (filled text (trimmed given) ResourceFile.all)).result before with ⟨failure | _, middle⟩
    · rw [ran] at wrote
      cases wrote
    · obtain ⟨after, succeeded, same⟩ := run_of_writeAll proper.nonempty has ran
      refine ⟨_, after, succeeded, rfl, ResourceFile.nodup_targets _, ?_⟩
      have delivers := writeAll_delivers proper clear ran
      constructor
      · rw [← same.tree]
        exact delivers.written
      · rw [← same.tree]
        exact delivers.elsewhere

/-- The templates lie where the resource goes, and one file of it is there already; and from a folder
without templates nothing is made. -/
theorem run_reads_first_among_templates :
    let before : Workspace := ⟨⟨[(["home"], .folder), (["home", "t"], .folder),
      (["home", "t", "user"], .folder), (["home", "t", "user", "dto"], .folder),
      (["home", "t", "user", "module.template"], .file "__CLASS__Module\r\n".toUTF8),
      (["home", "t", "user", "controller.template"], .file "".toUTF8),
      (["home", "t", "user", "service.template"], .file "__VAR__".toUTF8),
      (["home", "t", "user", "dto", "create-dto.template"], .file "__NAME__".toUTF8),
      (["home", "t", "user", "dto", "update-dto.template"], .file "ä".toUTF8),
      (["home", "t", "user", "user.service.ts"], .file "old".toUTF8)]⟩, ["home"], .zero false, []⟩
    (∃ result after, (run " user " "t" (some "t/user")).result before = (.ok result, after) ∧
      result.files.Nodup ∧ after.tree.content? ["home", "t", "user", "user.module.ts"] =
        some "UserModule\n".toUTF8) ∧
    ∃ failure, (run "user" "t" (some "t")).result before = (.error failure, before) := by
  intro before
  let stored : ResourceFile → String := fun file =>
    if file.template = "module.template" then "__CLASS__Module\r\n"
    else if file.template = "controller.template" then ""
    else if file.template = "service.template" then "__VAR__"
    else if file.template = "dto/create-dto.template" then "__NAME__"
    else "ä"
  have has : ∀ file ∈ ResourceFile.all, HasTemplate (some "t/user") before file
      (.ofList (normalizeLineEnds (stored file).toList)) := by
    have readable : ∀ file ∈ ResourceFile.all,
        ((Path.ofText "t/user").under (.ofText file.template)).hasNull = false ∧
          before.tree.read before.home ((Path.ofText "t/user").under (.ofText file.template)) =
            .ok (stored file).toUTF8 := by
      decide +kernel
    exact fun file listed => .stored rfl ⟨(readable file listed).1, (readable file listed).2⟩
  have clear : IsClear (folder "t" (trimmed " user ")) (trimmed " user ") before := by
    have checked : ∀ file ∈ ResourceFile.all, before.tree.isFolder
        ((exporter (folder "t" (trimmed " user "))).location before.home
          (file.target (trimmed " user "))) = false ∧
        ¬ (exporter (folder "t" (trimmed " user "))).output.Crosses before.home
          ((exporter (folder "t" (trimmed " user "))).location before.home
            (file.target (trimmed " user "))) := by
      decide +kernel
    exact fun file listed => ⟨(checked file listed).1, (checked file listed).2⟩
  have succeeds : ((writeAll (folder "t" (trimmed " user "))
      (filled (fun file => .ofList (normalizeLineEnds (stored file).toList)) (trimmed " user ")
        ResourceFile.all)).result before).1.isOk = true := by
    decide +kernel
  have wrote : ∀ {outcome : Except Failure Unit}, outcome.isOk = true → outcome = .ok () := by
    rintro (failure | _) isOk
    · cases isOk
    · rfl
  constructor
  · obtain ⟨result, after, ran, -, apart, delivers⟩ := (run_reads_first " user " "t" (some "t/user")
      before).2 _ has (by decide +kernel) clear (wrote succeeds)
    refine ⟨result, after, ran, apart, ?_⟩
    have wiring := delivers.written ⟨"module.template", "", ".module.ts", Template.wiring⟩
      List.mem_cons_self
    have rendered : Template.render (.ofList (normalizeLineEnds "__CLASS__Module\r\n".toList))
        (trimmed " user ") = "UserModule\n" := by
      decide +kernel
    have there : (exporter (folder "t" (trimmed " user "))).location before.home
        ("" ++ trimmed " user " ++ ".module.ts") = ["home", "t", "user", "user.module.ts"] := by
      decide +kernel
    rw [← there, ← rendered]
    exact wiring
  · have unread : (before.tree.read before.home
        ((Path.ofText "t").under (.ofText "module.template"))).isOk = false := by
      decide +kernel
    refine ((run_reads_first "user" "t" (some "t") before).1 ?_).1
    refine .missing ⟨"module.template", "", ".module.ts", Template.wiring⟩ List.mem_cons_self ?_
    intro text has
    cases has with
    | builtIn noFolder => cases noFolder
    | stored given held =>
      cases given
      rw [held.content] at unread
      cases unread

/-- The path to the folder of a resource makes a folder where a file of the resource goes. The file
then lies in that folder, under its temporary name. -/
theorem not_delivers_passed_target :
    let output := "user/user.module.ts/../.."
    let before : Workspace := ⟨⟨[(["home"], .folder)]⟩, ["home"], .zero false, []⟩
    IsName (trimmed "user") ∧
    (∀ file ∈ ResourceFile.all, HasTemplate none before file file.builtIn) ∧
    (∀ file ∈ ResourceFile.all, before.tree.isFolder
      ((exporter (folder output "user")).location before.home (file.target "user")) = false) ∧
    ∃ result after, (run "user" output none).result before = (.ok result, after) ∧
      ¬ Delivers (folder output "user") "user" ResourceFile.builtIn before after ∧
      (after.tree.content? ["home", "user", "user.module.ts", ".user.module.ts.RANDOM.tmp"]).isSome =
        true := by
  intro output before
  have clear : ∀ file ∈ ResourceFile.all, before.tree.isFolder
      ((exporter (folder output "user")).location before.home (file.target "user")) = false := by
    decide +kernel
  have ran : ((run "user" output none).result before).1.isOk = true ∧
      ((run "user" output none).result before).2.tree.content?
        ((exporter (folder output "user")).location before.home ("" ++ "user" ++ ".module.ts")) =
          none ∧
      (((run "user" output none).result before).2.tree.content?
        ["home", "user", "user.module.ts", ".user.module.ts.RANDOM.tmp"]).isSome = true := by
    decide +kernel
  obtain ⟨succeeds, absent, stray⟩ := ran
  refine ⟨by decide +kernel, fun _ _ => .builtIn rfl, clear, ?_⟩
  rcases ran : (run "user" output none).result before with ⟨failure | result, after⟩
  · rw [ran] at succeeds
    cases succeeds
  · rw [ran] at absent stray
    refine ⟨result, after, rfl, fun delivers => ?_, stray⟩
    have there := delivers.written ⟨"module.template", "", ".module.ts", Template.wiring⟩ List.mem_cons_self
    rw [ResourceFile.target, absent] at there
    cases there

end Scaffold

end PrismaNest
