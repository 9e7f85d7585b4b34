import PrismaNest.Failure
import PrismaNest.Journal.Event
import PrismaNest.Number.Binary64

/-! Workspaces, and actions on them.

A workspace is all that an action can see or change: the tree of files, the folder
that relative paths start from, the clock, and the events logged so far. An action
that fails keeps what it has changed and logged until then.

A clock is known by the times that it shows, one reading after another. Nothing is asked
of them: how long an action takes is left open.
-/

set_option autoImplicit false

namespace PrismaNest

structure Clock where
  /-- The time in seconds that each reading shows, from the next one on. -/
  times : Nat → Binary64

namespace Clock

/-- A clock that shows one time whenever it is read. -/
def still (time : Binary64) : Clock :=
  ⟨fun _ => time⟩

instance : Coe Binary64 Clock :=
  ⟨still⟩

/-- A clock that stands at zero. -/
def zero (negative : Bool) : Clock :=
  still (.zero negative)

/-- The clock after some readings. -/
def after (clock : Clock) (readings : Nat) : Clock :=
  ⟨fun reading => clock.times (readings + reading)⟩

end Clock

structure Workspace where
  tree : FileTree
  home : Location
  clock : Clock
  events : List Event

/-- The workspace once its clock has been read. -/
def Workspace.clockRead (workspace : Workspace) : Workspace :=
  { workspace with clock := workspace.clock.after 1 }

abbrev Action (α : Type) := ExceptT Failure (StateM Workspace) α

namespace Action

variable {α : Type}

/-- What an action gives and what it leaves. -/
def result (action : Action α) (workspace : Workspace) : Except Failure α × Workspace :=
  StateT.run (ExceptT.run action) workspace

/-- Reads the clock. -/
def readClock : Action Binary64 :=
  modifyGet fun workspace => (workspace.clock.times 0, workspace.clockRead)

def fail (failure : Failure) : Action α :=
  throw failure

def log (severity : Severity) (origin : Origin) (message : String) : Action Unit :=
  modify fun workspace =>
    { workspace with events := workspace.events ++ [⟨severity, origin, message⟩] }

def ofExcept {ε : Type} (failure : ε → Failure) : Except ε α → Action α
  | .ok value => pure value
  | .error fault => fail (failure fault)

def attempt (action : Action α) : Action (Except Failure α) :=
  ExceptT.lift (ExceptT.run action)

end Action

end PrismaNest
