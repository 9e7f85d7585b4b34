import PrismaNest.Proofs.Workspace.Retention

/-! Actions look at the files alone.

What has been logged before, and what time it is, makes no difference to what an action on files
gives and to the tree that it leaves. So the parts of a run can be looked at one by one, from the
workspace that the run starts in.
-/

set_option autoImplicit false

namespace PrismaNest

/-- Two workspaces hold the same files, and relative paths start from the same folder. -/
structure Workspace.SameFiles (first second : Workspace) : Prop where
  tree : first.tree = second.tree
  home : first.home = second.home

namespace Workspace.SameFiles

variable {first second third : Workspace}

theorem refl (workspace : Workspace) : workspace.SameFiles workspace :=
  ⟨rfl, rfl⟩

theorem symm (same : first.SameFiles second) : second.SameFiles first :=
  ⟨same.tree.symm, same.home.symm⟩

theorem trans (early : first.SameFiles second) (late : second.SameFiles third) :
    first.SameFiles third :=
  ⟨early.tree.trans late.tree, early.home.trans late.home⟩

theorem clockRead (workspace : Workspace) : workspace.SameFiles workspace.clockRead :=
  ⟨rfl, rfl⟩

theorem hasFile {path : Path} (same : first.SameFiles second) (there : first.HasFile path) :
    second.HasFile path :=
  there.retained ⟨same.home.symm, .of_same fun location => by rw [same.tree]⟩

end Workspace.SameFiles

namespace Action

open Workspace

variable {α β γ : Type}

/-- What an action gives, and the files that it leaves, depend neither on the log nor on the clock. -/
def SeesFiles (action : Action α) : Prop :=
  ∀ first second : Workspace, first.SameFiles second →
    (action.result first).1 = (action.result second).1 ∧
      (action.result first).2.SameFiles (action.result second).2

theorem seesFiles_pure (value : α) : SeesFiles (pure value : Action α) :=
  fun _ _ same => ⟨rfl, same⟩

theorem seesFiles_fail (failure : Failure) : SeesFiles (fail failure : Action α) :=
  fun _ _ same => ⟨rfl, same⟩

theorem seesFiles_log (severity : Severity) (origin : Origin) (message : String) :
    SeesFiles (log severity origin message) :=
  fun _ _ same => ⟨rfl, same.tree, same.home⟩

theorem SeesFiles.bind {action : Action α} {next : α → Action β} (first : SeesFiles action)
    (later : ∀ value, SeesFiles (next value)) : SeesFiles (action >>= next) := by
  intro one other same
  obtain ⟨gives, leaves⟩ := first one other same
  rw [result_bind, result_bind]
  rcases ran : action.result one with ⟨failure | value, after⟩
  · rcases again : action.result other with ⟨failure | value, afterOther⟩
    · rw [ran, again] at gives leaves
      cases gives
      exact ⟨rfl, leaves⟩
    · rw [ran, again] at gives
      cases gives
  · rcases again : action.result other with ⟨failure | value, afterOther⟩
    · rw [ran, again] at gives
      cases gives
    · rw [ran, again] at gives leaves
      cases gives
      exact later value after afterOther leaves

theorem keeps_timed {action : Action α} (kept : Keeps SameFiles action) (label : String) :
    Keeps SameFiles (timed label action) := by
  intro before
  have same := (SameFiles.clockRead before).trans (kept before.clockRead)
  rw [result_timed]
  exact ⟨same.tree, same.home⟩

-- Timed anew, an action that looks at the files alone gives the same, in some other time.
theorem gives_timed {action : Action α} (sees : SeesFiles action) (label : String)
    {first second : Workspace} (same : first.SameFiles second) (given : α × Timer) (after : Workspace)
    (ran : (timed label action).result second = (.ok given, after)) :
    ∃ again last, (timed label action).result first = (.ok again, last) ∧ again.1 = given.1 := by
  have sameRead := (SameFiles.clockRead first).symm.trans (same.trans (.clockRead second))
  have gives := (sees _ _ sameRead).1
  rw [result_timed] at ran
  rcases done : action.result second.clockRead with ⟨failure | value, middle⟩
  · rw [done] at ran
    cases ran
  · rcases begun : action.result first.clockRead with ⟨outcome, last⟩
    rw [done, begun] at gives
    rw [done] at ran
    cases ran
    obtain rfl : outcome = .ok value := gives
    have timedAgain := result_timed label action first
    rw [begun] at timedAgain
    exact ⟨_, _, timedAgain, rfl⟩

theorem seesFiles_tryFolder (path : Path) : SeesFiles (tryFolder path) := by
  intro first second same
  rw [result_tryFolder, result_tryFolder, same.tree, same.home]
  split
  · exact ⟨rfl, same⟩
  · split
    · exact ⟨rfl, rfl, rfl⟩
    · exact ⟨rfl, same⟩
    · split <;> exact ⟨rfl, same⟩

theorem seesFiles_makeFolder (path : Path) : SeesFiles (makeFolder path) := by
  refine (seesFiles_tryFolder path).bind fun made => ?_
  split
  · exact seesFiles_fail _
  · exact seesFiles_pure ()

theorem seesFiles_makeFoldersUp (root : String) (upwards : List String) :
    SeesFiles (makeFoldersUp root upwards) := by
  induction upwards with
  | nil => exact seesFiles_makeFolder _
  | cons name above ih =>
    rw [makeFoldersUp_cons]
    refine (seesFiles_tryFolder _).bind fun made => ?_
    split
    · exact ih.bind fun _ => seesFiles_makeFolder _
    · exact seesFiles_pure ()

theorem seesFiles_ensureFolder (path : Path) : SeesFiles (ensureFolder path) :=
  (seesFiles_makeFoldersUp _ _).bind fun _ => seesFiles_log _ _ _

theorem overwritten_seesFiles {first second : Workspace} (same : first.SameFiles second)
    (path : Path) (content : ByteArray) :
    (first.overwritten path content).1 = (second.overwritten path content).1 ∧
      (first.overwritten path content).2.SameFiles (second.overwritten path content).2 := by
  rw [overwritten, overwritten, same.tree, same.home]
  cases second.tree.overwrite second.home path content with
  | ok tree => exact ⟨rfl, rfl, rfl⟩
  | error fault => exact ⟨rfl, same⟩

theorem seesFiles_writeThrough (path : Path) (content : ByteArray) :
    SeesFiles (writeThrough path content) := by
  intro first second same
  rw [result_writeThrough, result_writeThrough, same.tree, same.home]
  split
  · exact ⟨rfl, same⟩
  · split
    · exact ⟨rfl, same⟩
    · split
      · exact ⟨rfl, same⟩
      · split
        · split
          · exact ⟨rfl, same⟩
          · exact overwritten_seesFiles same _ content
        · exact overwritten_seesFiles same path content

theorem seesFiles_writeInPlace (path : Path) (content : ByteArray) :
    SeesFiles (writeInPlace path content) := by
  intro first second same
  rw [result_writeInPlace, result_writeInPlace]
  split
  · exact ⟨rfl, same⟩
  · exact overwritten_seesFiles same path content

theorem seesFiles_writeText (path : Path) (text : String) (atomic : Bool) :
    SeesFiles (writeText path text atomic) := by
  rw [writeText_eq]
  refine (seesFiles_ensureFolder _).bind fun _ => ?_
  refine SeesFiles.bind ?_ fun _ => (seesFiles_log _ _ _).bind fun _ => seesFiles_pure _
  cases atomic with
  | true => exact seesFiles_writeThrough path _
  | false => exact seesFiles_writeInPlace path _

theorem seesFiles_readText (path : Path) : SeesFiles (readText path) := by
  intro first second same
  rw [result_readText, result_readText, same.tree, same.home]
  split
  · exact ⟨rfl, same⟩
  · split
    · exact ⟨rfl, same⟩
    · split <;> exact ⟨rfl, same⟩

/-- An action that logs and changes nothing else, whatever was logged before and at any time. -/
structure Reads (action : Action α) : Prop where
  keeps : Keeps SameFiles action
  sees : SeesFiles action

theorem reads_pure (value : α) : Reads (pure value : Action α) :=
  ⟨keeps_pure .refl value, seesFiles_pure value⟩

theorem reads_fail (failure : Failure) : Reads (fail failure : Action α) :=
  ⟨keeps_fail .refl failure, seesFiles_fail failure⟩

theorem reads_log (severity : Severity) (origin : Origin) (message : String) :
    Reads (log severity origin message) :=
  ⟨fun _ => ⟨rfl, rfl⟩, seesFiles_log severity origin message⟩

theorem Reads.bind {action : Action α} {next : α → Action β} (first : Reads action)
    (later : ∀ value, Reads (next value)) : Reads (action >>= next) :=
  ⟨first.keeps.bind SameFiles.trans fun value => (later value).keeps,
    first.sees.bind fun value => (later value).sees⟩

theorem Reads.gives {action : Action α} {first second : Workspace} {outcome : Except Failure α}
    (reads : Reads action) (same : first.SameFiles second)
    (given : (action.result first).1 = outcome) : (action.result second).1 = outcome :=
  (reads.sees first second same).1.symm.trans given

-- What an action has read in one workspace, it reads in another one that holds the same files.
theorem Reads.ran {action : Action α} {first second : Workspace} {outcome : Except Failure α}
    (reads : Reads action) (same : first.SameFiles second)
    (given : (action.result first).1 = outcome) :
    ∃ after, action.result second = (outcome, after) ∧ first.SameFiles after :=
  ⟨_, Prod.ext (reads.gives same given) rfl, same.trans (reads.keeps second)⟩

theorem reads_ofExcept {ε : Type} (failure : ε → Failure) (outcome : Except ε α) :
    Reads (ofExcept failure outcome) := by
  cases outcome with
  | ok value => exact reads_pure value
  | error fault => exact reads_fail _

theorem reads_readText (path : Path) : Reads (readText path) := by
  refine ⟨fun workspace => ?_, seesFiles_readText path⟩
  rw [result_readText]
  split
  · exact .refl workspace
  · split
    · exact .refl workspace
    · split <;> exact .refl workspace

end Action

end PrismaNest
