import PrismaNest.Command.Help
import PrismaNest.Export.Manifest
import PrismaNest.Workspace.Basic

/-! Outcomes of commands: how a command ends, and what it prints. -/

set_option autoImplicit false

namespace PrismaNest

inductive ExitStatus where
  | success
  | misuse
  | writeFailure
  | inputFailure
  deriving DecidableEq, Repr

def ExitStatus.code : ExitStatus → Nat
  | .success => 0
  | .misuse => 2
  | .writeFailure => 3
  | .inputFailure => 4

structure Outcome where
  status : ExitStatus
  stdout : String
  stderr : String
  deriving DecidableEq, Repr

namespace Outcome

def versionLine : String :=
  "nestgen v" ++ generatorVersion ++ "\n"

def ofHalt (program : String) (help : HelpText) : Halt → Outcome
  | .help => ⟨.success, help.fullText, ""⟩
  | .version => ⟨.success, versionLine, ""⟩
  | .misuse cause =>
    ⟨.misuse, "", help.usageText ++ program ++ ": error: " ++ cause.message ++ "\n"⟩

end Outcome

/-- The least severity that a log shows, for how often more was asked for. -/
def Severity.ofVerbosity : Nat → Severity
  | 0 => .warning
  | 1 => .info
  | _ => .debug

/-- Runs the work of a command, with what it logs as its errors. Work gives a status and what
to print; nothing is logged if no severity is given. -/
def Action.asCommand (least : Option Severity) (work : Action (ExitStatus × String)) :
    Action Outcome := do
  modify fun workspace => { workspace with events := [] }
  let (status, stdout) ← work
  let workspace ← get
  return ⟨status, stdout, (least.map (Event.log · workspace.events)).getD ""⟩

end PrismaNest
