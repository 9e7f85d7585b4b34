import PrismaNest.Workspace.Timer

/-! Running actions step by step.

An action in sequence runs on what the one before it left, and not at all after a failure. So
a relation between workspaces that is reflexive and transitive holds over a sequence as soon
as it holds over its parts, whether or not they succeed.
-/

set_option autoImplicit false

namespace PrismaNest.Action

variable {α β : Type}

@[simp] theorem result_pure (value : α) (workspace : Workspace) :
    (pure value : Action α).result workspace = (.ok value, workspace) :=
  rfl

@[simp] theorem result_bind (action : Action α) (next : α → Action β) (workspace : Workspace) :
    (action >>= next).result workspace =
      match action.result workspace with
      | (.ok value, after) => (next value).result after
      | (.error failure, after) => (.error failure, after) := by
  change StateT.run (ExceptT.run action >>= ExceptT.bindCont next) workspace = _
  rw [StateT.run_bind]
  rcases ran : StateT.run (ExceptT.run action) workspace with ⟨_ | _, after⟩
  · simp only [result, ran]
    rfl
  · simp only [result, ran]
    rfl

@[simp] theorem result_get (workspace : Workspace) :
    (get : Action Workspace).result workspace = (.ok workspace, workspace) :=
  rfl

@[simp] theorem result_set (replacement workspace : Workspace) :
    (set replacement : Action Unit).result workspace = (.ok (), replacement) :=
  rfl

@[simp] theorem result_fail (failure : Failure) (workspace : Workspace) :
    (fail failure : Action α).result workspace = (.error failure, workspace) :=
  rfl

@[simp] theorem result_log (severity : Severity) (origin : Origin) (message : String)
    (workspace : Workspace) :
    (log severity origin message).result workspace =
      (.ok (), { workspace with events := workspace.events ++ [⟨severity, origin, message⟩] }) :=
  rfl

@[simp] theorem result_modify (change : Workspace → Workspace) (before : Workspace) :
    (modify change : Action Unit).result before = (.ok (), change before) :=
  rfl

@[simp] theorem result_attempt (action : Action α) (before : Workspace) :
    (attempt action).result before = (.ok (action.result before).1, (action.result before).2) :=
  rfl

@[simp] theorem result_readClock (workspace : Workspace) :
    readClock.result workspace = (.ok (workspace.clock.times 0), workspace.clockRead) :=
  rfl

-- Timing an action reads the clock before and after it, and adds one event to those it leaves.
theorem result_timed (label : String) (action : Action α) (workspace : Workspace) :
    (timed label action).result workspace =
      let ran := action.result workspace.clockRead
      let timer := Timer.between label (workspace.clock.times 0) (ran.2.clock.times 0)
      (ran.1.map (·, timer), { ran.2.clockRead with events := ran.2.events ++ [timer.event] }) :=
  rfl

section
variable {action : Action α} {next : α → Action β} {before after : Workspace} {failure : Failure}
  {value : β}

-- A sequence that succeeds has succeeded in both of its parts.
theorem of_result_bind_ok (ran : (action >>= next).result before = (.ok value, after)) :
    ∃ given middle, action.result before = (.ok given, middle) ∧
      (next given).result middle = (.ok value, after) := by
  rw [result_bind] at ran
  rcases first : action.result before with ⟨raised | given, middle⟩
  · rw [first] at ran
    cases ran
  · rw [first] at ran
    exact ⟨given, middle, rfl, ran⟩

theorem of_result_ofExcept_ok {ε : Type} {raise : ε → Failure} {outcome : Except ε β}
    (ran : (ofExcept raise outcome).result before = (.ok value, after)) :
    outcome = .ok value ∧ before = after := by
  cases outcome with
  | error fault => cases ran
  | ok given =>
    cases ran
    exact ⟨rfl, rfl⟩

-- A sequence that fails has failed in its first part, or in the second after that.
theorem of_result_bind_error (ran : (action >>= next).result before = (.error failure, after)) :
    action.result before = (.error failure, after) ∨
      ∃ given middle, action.result before = (.ok given, middle) ∧
        (next given).result middle = (.error failure, after) := by
  rw [result_bind] at ran
  rcases first : action.result before with ⟨raised | given, middle⟩
  · rw [first] at ran
    cases ran
    exact .inl rfl
  · rw [first] at ran
    exact .inr ⟨given, middle, rfl, ran⟩

end

section
variable {relation : Workspace → Workspace → Prop}

/-- Whatever an action gives, what it leaves is related to what it found. -/
def Keeps (relation : Workspace → Workspace → Prop) (action : Action α) : Prop :=
  ∀ workspace, relation workspace (action.result workspace).2

theorem Keeps.of_ran {action : Action α} {outcome : Except Failure α} {before after : Workspace}
    (kept : Keeps relation action) (ran : action.result before = (outcome, after)) :
    relation before after := by
  have related := kept before
  rwa [ran] at related

theorem keeps_pure (reflexive : ∀ workspace, relation workspace workspace) (value : α) :
    Keeps relation (pure value : Action α) :=
  reflexive

theorem keeps_fail (reflexive : ∀ workspace, relation workspace workspace) (failure : Failure) :
    Keeps relation (fail failure : Action α) :=
  reflexive

theorem Keeps.bind {action : Action α} {next : α → Action β} (first : Keeps relation action)
    (transitive : ∀ {before middle after : Workspace}, relation before middle →
      relation middle after → relation before after)
    (later : ∀ value, Keeps relation (next value)) : Keeps relation (action >>= next) := by
  intro workspace
  have kept := first workspace
  rw [result_bind]
  rcases ran : action.result workspace with ⟨failure | value, after⟩
  · rw [ran] at kept
    exact kept
  · rw [ran] at kept
    exact transitive kept (later value after)

end

end PrismaNest.Action
