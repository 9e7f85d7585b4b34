import PrismaNest.Data.Moment
import PrismaNest.Text.DecimalDigit

/-! Why a text is no YAML document.

Either the text is malformed, or a scalar looks like a number or a date and is none.
-/

set_option autoImplicit false

namespace PrismaNest.Yaml

inductive ScalarFault where
  | calendar (fault : CalendarFault)
  | notWhole (base : Nat) (text : String)
  | notNumber (text : String)
  | longInteger (digits : Nat)
  /-- An escaped code point beyond the last one. -/
  | codePoint
  /-- An escaped code point that does not even fit into 31 bits. -/
  | wideCodePoint
  /-- No digits where a number was asked for. -/
  | noDigits
  | notTruth (word : String)
  | notMoment
  /-- A mapping where a date or a time was asked for. -/
  | momentOfMapping
  /-- A mapping whose default entry leads back to itself. -/
  | endless
  deriving DecidableEq, Repr

def ScalarFault.message : ScalarFault → String
  | .calendar fault => fault.message
  | .notWhole base text =>
    "invalid literal for int() with base " ++ toString base ++ ": " ++ Text.quoted text
  | .notNumber text => "could not convert string to float: " ++ Text.quoted text
  | .longInteger digits => Text.longIntegerMessage digits
  | .codePoint => "chr() arg not in range(0x110000)"
  | .wideCodePoint => "Python int too large to convert to C int"
  | .noDigits => "string index out of range"
  | .notTruth word => Text.quoted word
  | .notMoment => "'NoneType' object has no attribute 'groupdict'"
  | .momentOfMapping => "expected string or bytes-like object, got 'list'"
  | .endless => "maximum recursion depth exceeded"

/-- Whether a scalar is so far from what it should be that commands have no message for it. -/
def ScalarFault.isUnexpected : ScalarFault → Bool
  | .wideCodePoint | .noDigits | .notTruth _ | .notMoment | .momentOfMapping | .endless => true
  | _ => false

inductive Fault where
  | malformed
  | scalar (fault : ScalarFault)
  deriving DecidableEq, Repr

abbrev Read (α : Type) := Except Fault α

def malformed {α : Type} : Read α :=
  .error .malformed

end PrismaNest.Yaml
