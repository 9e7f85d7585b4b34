import PrismaNest.Number.Display
import PrismaNest.Workspace.Basic

/-! Timing of actions. -/

set_option autoImplicit false

namespace PrismaNest

structure Timer where
  label : String
  elapsed : Binary64
  deriving DecidableEq, Repr

namespace Timer

def fresh (label : String) : Timer :=
  ⟨label, .zero false⟩

def between (label : String) (start stop : Binary64) : Timer :=
  ⟨label, stop.sub start⟩

def toText (timer : Timer) : String :=
  "<Timer " ++ timer.label ++ ": " ++ timer.elapsed.toFixed 4 ++ "s>"

def event (timer : Timer) : Event :=
  ⟨.debug, .files, "Timer [" ++ timer.label ++ "]: " ++ timer.elapsed.toFixed 4 ++ " seconds"⟩

end Timer

/-- Times an action. The time is logged whether or not the action succeeds. -/
def Action.timed {α : Type} (label : String) (action : Action α) : Action (α × Timer) :=
  fun workspace =>
    let (outcome, after) := action.result workspace.clockRead
    let timer := Timer.between label (workspace.clock.times 0) (after.clock.times 0)
    (outcome.map (·, timer), { after.clockRead with events := after.events ++ [timer.event] })

end PrismaNest
