import PrismaNest.Proofs.Workspace.Blindness

/-! What an action amounts to.

An action that does nothing but log and read the clock besides another one fails where that one does,
and leaves the same files.
-/

set_option autoImplicit false

namespace PrismaNest.Action

open Workspace

variable {α β γ δ : Type}

/-- An action that succeeds and does nothing but log and read the clock. -/
def OnlyLogs (action : Action α) : Prop :=
  ∀ before : Workspace, ∃ value after, action.result before = (.ok value, after) ∧
    before.SameFiles after

/-- An action fails where another one does, and leaves the same files. -/
def AmountsTo (action : Action α) (core : Action β) : Prop :=
  ∀ before other : Workspace, before.SameFiles other →
    (∀ failure, (action.result before).1 = .error failure ↔ (core.result other).1 = .error failure) ∧
      (action.result before).2.SameFiles (core.result other).2

theorem onlyLogs_pure (value : α) : OnlyLogs (pure value : Action α) :=
  fun before => ⟨value, before, rfl, .refl before⟩

theorem onlyLogs_log (severity : Severity) (origin : Origin) (message : String) :
    OnlyLogs (log severity origin message) :=
  fun _ => ⟨(), _, rfl, rfl, rfl⟩

theorem onlyLogs_readClock : OnlyLogs readClock :=
  fun before => ⟨before.clock.times 0, before.clockRead, rfl, .clockRead before⟩

theorem OnlyLogs.not_failed {action : Action α} {before after : Workspace} {failure : Failure}
    (logs : OnlyLogs action) : action.result before ≠ (.error failure, after) := by
  intro failed
  obtain ⟨value, last, ran, -⟩ := logs before
  rw [failed] at ran
  cases ran

theorem OnlyLogs.bind {action : Action α} {next : α → Action β} (first : OnlyLogs action)
    (later : ∀ value, OnlyLogs (next value)) : OnlyLogs (action >>= next) := by
  intro before
  obtain ⟨value, middle, ran, same⟩ := first before
  obtain ⟨last, after, ranLater, sameLater⟩ := later value middle
  exact ⟨last, after, by rw [result_bind, ran]; exact ranLater, same.trans sameLater⟩

-- What comes after an action that succeeds decides what both give.
theorem OnlyLogs.gives {action : Action α} {next : α → Action β} {before : Workspace}
    {outcome : Except Failure β} (logs : OnlyLogs action)
    (later : ∀ value after, ((next value).result after).1 = outcome) :
    ((action >>= next).result before).1 = outcome := by
  obtain ⟨value, after, ran, -⟩ := logs before
  rw [result_bind, ran]
  exact later value after

theorem OnlyLogs.timed {action : Action α} (logs : OnlyLogs action) (label : String) :
    OnlyLogs (timed label action) := by
  intro before
  obtain ⟨value, after, ran, same⟩ := logs before.clockRead
  refine ⟨_, _, by rw [result_timed, ran]; rfl, ?_⟩
  exact ⟨same.tree, same.home⟩

theorem SeesFiles.amountsTo {action : Action α} (sees : SeesFiles action) :
    AmountsTo action action := by
  intro before other same
  obtain ⟨gives, leaves⟩ := sees before other same
  exact ⟨fun failure => by rw [gives], leaves⟩

theorem AmountsTo.symm {action : Action α} {core : Action β} (amounts : AmountsTo action core) :
    AmountsTo core action := by
  intro before other same
  obtain ⟨fails, leaves⟩ := amounts other before same.symm
  exact ⟨fun failure => (fails failure).symm, leaves.symm⟩

theorem AmountsTo.trans {action : Action α} {core : Action β} {inner : Action γ}
    (amounts : AmountsTo action core) (further : AmountsTo core inner) : AmountsTo action inner := by
  intro before other same
  obtain ⟨fails, leaves⟩ := amounts before other same
  obtain ⟨failsToo, leavesToo⟩ := further other other (.refl other)
  exact ⟨fun failure => (fails failure).trans (failsToo failure), leaves.trans leavesToo⟩

-- Both fail with the same failure, or both succeed.
theorem AmountsTo.result_cases {action : Action α} {core : Action β} {before other : Workspace}
    (amounts : AmountsTo action core) (same : before.SameFiles other) :
    (∃ failure after later, action.result before = (.error failure, after) ∧
      core.result other = (.error failure, later) ∧ after.SameFiles later) ∨
    ∃ value given after later, action.result before = (.ok value, after) ∧
      core.result other = (.ok given, later) ∧ after.SameFiles later := by
  obtain ⟨fails, leaves⟩ := amounts before other same
  rcases ran : action.result before with ⟨failure | value, after⟩
  · have failed := (fails failure).mp (congrArg Prod.fst ran)
    rw [ran] at leaves
    exact .inl ⟨failure, after, _, rfl, Prod.ext failed rfl, leaves⟩
  · rcases coreRan : core.result other with ⟨failure | given, later⟩
    · have failed := (fails failure).mpr (congrArg Prod.fst coreRan)
      rw [ran] at failed
      cases failed
    · rw [ran, coreRan] at leaves
      exact .inr ⟨value, given, after, later, rfl, rfl, leaves⟩

theorem OnlyLogs.before_core {action : Action α} {next : α → Action β} {core : Action γ}
    (logs : OnlyLogs action) (later : ∀ value before after,
      action.result before = (.ok value, after) → AmountsTo (next value) core) :
    AmountsTo (action >>= next) core := by
  intro before other same
  obtain ⟨value, middle, ran, sameMiddle⟩ := logs before
  rw [result_bind, ran]
  exact later value before middle ran middle other (sameMiddle.symm.trans same)

theorem AmountsTo.timed {action : Action α} {core : Action β} (amounts : AmountsTo action core)
    (label : String) : AmountsTo (timed label action) core := by
  intro before other same
  obtain ⟨fails, leaves⟩ := amounts before.clockRead other ((SameFiles.clockRead before).symm.trans same)
  rw [result_timed]
  refine ⟨fun failure => ?_, leaves.tree, leaves.home⟩
  rw [← fails failure]
  rcases action.result before.clockRead with ⟨_ | _, after⟩ <;> simp [Except.map]

theorem AmountsTo.and_logs {action : Action α} {next : α → Action β} {core : Action γ}
    (amounts : AmountsTo action core) (logs : ∀ value, OnlyLogs (next value)) :
    AmountsTo (action >>= next) core := by
  intro before other same
  rw [result_bind]
  obtain ⟨failure, middle, later, ran, coreRan, leaves⟩ |
    ⟨value, given, middle, later, ran, coreRan, leaves⟩ := amounts.result_cases same
  · rw [ran, coreRan]
    exact ⟨fun asked => by simp, leaves⟩
  · obtain ⟨last, after, ranLater, sameLater⟩ := logs value middle
    rw [ran, coreRan]
    simp only [ranLater]
    exact ⟨fun asked => by simp, sameLater.symm.trans leaves⟩

theorem AmountsTo.bind {action : Action α} {core : Action β} {next : α → Action γ}
    {coreNext : β → Action δ} (first : AmountsTo action core)
    (later : ∀ value given, AmountsTo (next value) (coreNext given)) :
    AmountsTo (action >>= next) (core >>= coreNext) := by
  intro before other same
  rw [result_bind, result_bind]
  obtain ⟨failure, middle, coreMiddle, ran, coreRan, leaves⟩ |
    ⟨value, given, middle, coreMiddle, ran, coreRan, leaves⟩ := first.result_cases same
  · rw [ran, coreRan]
    exact ⟨fun asked => by simp, leaves⟩
  · rw [ran, coreRan]
    exact later value given middle coreMiddle leaves

theorem AmountsTo.onlyLogs {action : Action α} {core : Action β} (amounts : AmountsTo action core)
    (logs : OnlyLogs core) : OnlyLogs action := by
  intro before
  obtain ⟨value, after, ran, same⟩ := logs before
  obtain ⟨failure, later, last, -, coreRan, -⟩ | ⟨given, other, later, last, outcome, coreRan, left⟩ :=
    amounts.result_cases (.refl before)
  · exact absurd coreRan logs.not_failed
  · rw [ran] at coreRan
    cases coreRan
    exact ⟨given, later, outcome, same.trans left.symm⟩

section
variable {action : Action α} {core : Action β} {before after : Workspace}

/-- An action that succeeds, and what it leaves. -/
def Leaves (action : Action α) (before after : Workspace) : Prop :=
  ∃ value, action.result before = (.ok value, after)

theorem AmountsTo.leaves (amounts : AmountsTo action core) (left : Leaves action before after) :
    ∃ later, Leaves core before later ∧ after.SameFiles later := by
  obtain ⟨value, ran⟩ := left
  obtain ⟨failure, last, later, failed, -, -⟩ | ⟨given, result, last, later, again, coreRan, same⟩ :=
    amounts.result_cases (.refl before)
  · rw [ran] at failed
    cases failed
  · rw [ran] at again
    cases again
    exact ⟨later, ⟨result, coreRan⟩, same⟩

theorem OnlyLogs.leaves (logs : OnlyLogs action) (left : Leaves action before after) :
    before.SameFiles after := by
  obtain ⟨value, ran⟩ := left
  obtain ⟨other, later, again, same⟩ := logs before
  rw [ran] at again
  cases again
  exact same

end

end PrismaNest.Action
