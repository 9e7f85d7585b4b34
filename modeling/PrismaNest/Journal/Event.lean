/-! Events of a run, as they are logged.

An event has a severity, the part of the program it comes from, and a message. A
log shows events from a severity upwards, one per line.
-/

set_option autoImplicit false

namespace PrismaNest

inductive Severity where
  | debug
  | info
  | warning
  | error
  deriving DecidableEq, Repr

namespace Severity

def rank : Severity → Nat
  | debug => 0
  | info => 1
  | warning => 2
  | error => 3

def name : Severity → String
  | debug => "DEBUG"
  | info => "INFO"
  | warning => "WARNING"
  | error => "ERROR"

end Severity

inductive Origin where
  | command
  | files
  | schema
  | artifacts
  | exporter
  | generation
  | scaffold
  deriving DecidableEq, Repr

def Origin.name : Origin → String
  | .command => "nestgen"
  | .files => "nestgen.utils"
  | .schema => "nestgen.parser"
  | .artifacts => "nestgen.templates"
  | .exporter => "nestgen.exporters"
  | .generation => "nestgen.generator"
  | .scaffold => "nestgen.scaffold"

structure Event where
  severity : Severity
  origin : Origin
  message : String
  deriving DecidableEq, Repr

namespace Event

/-- An event on a line, its severity filled up to eight characters. -/
def line (event : Event) : String :=
  let level := event.severity.name
  level ++ String.ofList (List.replicate (8 - level.length) ' ') ++ " │ " ++ event.origin.name
    ++ " │ " ++ event.message ++ "\n"

def log (least : Severity) (events : List Event) : String :=
  String.join ((events.filter fun event => least.rank ≤ event.severity.rank).map line)

end Event

end PrismaNest
