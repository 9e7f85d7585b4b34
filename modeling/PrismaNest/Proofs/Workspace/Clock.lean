import PrismaNest.Proofs.Workspace.Amounts

/-! How often actions read the clock.

Actions on files do not read the clock, and timing an action reads it once before and once after. So
the times that a run reports are known readings of the clock that the run starts with, and depend on
nothing else.
-/

set_option autoImplicit false

namespace PrismaNest

namespace Clock

@[simp] theorem after_zero (clock : Clock) : clock.after 0 = clock := by
  simp only [after, Nat.zero_add]

@[simp] theorem after_after (clock : Clock) (early late : Nat) :
    (clock.after early).after late = clock.after (early + late) := by
  simp only [after, Nat.add_assoc]

@[simp] theorem times_after (clock : Clock) (readings reading : Nat) :
    (clock.after readings).times reading = clock.times (readings + reading) :=
  rfl

end Clock

/-- Two workspaces differ in their logs at most. -/
structure Workspace.SameButLog (first second : Workspace) : Prop extends first.SameFiles second where
  clock : first.clock = second.clock

theorem Workspace.overwritten_clock (workspace : Workspace) (path : Path) (content : ByteArray) :
    (workspace.overwritten path content).2.clock = workspace.clock := by
  rw [overwritten]
  split <;> rfl

namespace Action

open Workspace

variable {α β : Type} {readings : Nat}

/-- Whether or not an action succeeds, it reads the clock so many times. -/
def ReadsClock (readings : Nat) (action : Action α) : Prop :=
  ∀ before : Workspace, (action.result before).2.clock = before.clock.after readings

theorem ReadsClock.of_ran {action : Action α} {outcome : Except Failure α} {before after : Workspace}
    (reads : ReadsClock readings action) (ran : action.result before = (outcome, after)) :
    after.clock = before.clock.after readings := by
  have read := reads before
  rwa [ran] at read

-- An action that leaves the clock alone.
theorem readsClock_zero {action : Action α}
    (same : ∀ before : Workspace, (action.result before).2.clock = before.clock) :
    ReadsClock 0 action :=
  fun before => (same before).trans before.clock.after_zero.symm

theorem readsClock_pure (value : α) : ReadsClock 0 (pure value : Action α) :=
  readsClock_zero fun _ => rfl

theorem readsClock_fail (failure : Failure) : ReadsClock 0 (fail failure : Action α) :=
  readsClock_zero fun _ => rfl

theorem readsClock_log (severity : Severity) (origin : Origin) (message : String) :
    ReadsClock 0 (log severity origin message) :=
  readsClock_zero fun _ => rfl

-- As an action may fail before it comes to the next one, that one must not read the clock.
theorem ReadsClock.bind {action : Action α} {next : α → Action β} (first : ReadsClock readings action)
    (later : ∀ value, ReadsClock 0 (next value)) : ReadsClock readings (action >>= next) := by
  intro before
  have read := first before
  rw [result_bind]
  rcases ran : action.result before with ⟨failure | value, middle⟩
  · rw [ran] at read
    exact read
  · rw [ran] at read
    rw [later value middle, Clock.after_zero]
    exact read

theorem ReadsClock.timed {action : Action α} (reads : ReadsClock readings action) (label : String) :
    ReadsClock (readings + 2) (timed label action) := by
  intro before
  have read := reads before.clockRead
  rw [result_timed]
  simp only [clockRead] at read ⊢
  rw [read, Clock.after_after, Clock.after_after]
  congr 1
  omega

-- The time that an action took lies between the readings before and after its own.
theorem of_timed_ok {action : Action α} {label : String} {value : α} {timer : Timer}
    {before after : Workspace} (reads : ReadsClock readings action)
    (ran : (timed label action).result before = (.ok (value, timer), after)) :
    (∃ middle, action.result before.clockRead = (.ok value, middle)) ∧
      timer.elapsed = (before.clock.times (readings + 1)).sub (before.clock.times 0) ∧
      after.clock = before.clock.after (readings + 2) := by
  refine ⟨?_, ?_, (reads.timed label).of_ran ran⟩
  all_goals
    rw [result_timed] at ran
    rcases done : action.result before.clockRead with ⟨failure | given, middle⟩
    · rw [done] at ran
      cases ran
  · rw [done] at ran
    cases ran
    exact ⟨middle, rfl⟩
  · have read := reads.of_ran done
    rw [done] at ran
    cases ran
    simp only [Timer.between, read, clockRead, Clock.after_after, Clock.times_after]
    rw [Nat.add_comm 1 readings, Nat.add_zero]

theorem readsClock_tryFolder (path : Path) : ReadsClock 0 (tryFolder path) := by
  refine readsClock_zero fun before => ?_
  rw [result_tryFolder]
  repeat' split
  all_goals rfl

theorem readsClock_makeFolder (path : Path) : ReadsClock 0 (makeFolder path) := by
  refine (readsClock_tryFolder path).bind fun made => ?_
  split
  · exact readsClock_fail _
  · exact readsClock_pure ()

theorem readsClock_makeFoldersUp (root : String) (upwards : List String) :
    ReadsClock 0 (makeFoldersUp root upwards) := by
  induction upwards with
  | nil => exact readsClock_makeFolder ⟨root, []⟩
  | cons name above ih =>
    rw [makeFoldersUp_cons]
    refine (readsClock_tryFolder _).bind fun made => ?_
    split
    · exact ih.bind fun _ => readsClock_makeFolder _
    · exact readsClock_pure ()

theorem readsClock_deliver (path : Path) (content : ByteArray) (atomic : Bool) :
    ReadsClock 0 (deliver path content atomic) := by
  refine readsClock_zero fun before => ?_
  cases atomic with
  | true =>
    change ((writeThrough path content).result before).2.clock = before.clock
    rcases writeThrough_cases path content before with ⟨failure, ran⟩ | ⟨-, ran⟩ | ⟨-, ran⟩
    · rw [ran]
    all_goals
      rw [ran]
      exact overwritten_clock before _ content
  | false =>
    change ((writeInPlace path content).result before).2.clock = before.clock
    rw [result_writeInPlace]
    split
    · rfl
    · exact overwritten_clock before path content

theorem readsClock_writeText (path : Path) (text : String) (atomic : Bool) :
    ReadsClock 0 (writeText path text atomic) := by
  have folders : ReadsClock 0 (ensureFolder path.parent) :=
    (readsClock_makeFoldersUp _ _).bind fun _ => readsClock_log _ _ _
  rw [writeText_eq]
  refine folders.bind fun _ => (readsClock_deliver path _ atomic).bind fun _ => ?_
  exact (readsClock_log _ _ _).bind fun _ => readsClock_pure _

end Action

end PrismaNest
