import PrismaNest.Yaml.Fault

/-! Tokens of a YAML text, and the classes of characters that separate them.

Line ends are line feeds, and the line and paragraph separators. A block collection
has a start and an end of its own, which follow from indentation.
-/

set_option autoImplicit false

namespace PrismaNest.Yaml

inductive Token where
  | version (major minor : Nat)
  | tagHandle (handle start : String)
  | directive
  | documentStart
  | documentEnd
  | streamEnd
  | blockSequenceStart
  | blockMappingStart
  | blockEnd
  | flowSequenceStart
  | flowSequenceEnd
  | flowMappingStart
  | flowMappingEnd
  | flowEntry
  | blockEntry
  | key
  | value
  | alias (name : String)
  | anchor (name : String)
  | tag (handle : Option String) (suffix : String)
  | scalar (text : String) (plain : Bool)
  /-- The text cannot be read further. -/
  | unreadable (fault : Fault)
  deriving DecidableEq, Repr

def isBreak (c : Char) : Bool :=
  c = '\n' || c = '\u2028' || c = '\u2029'

def isGap (c : Char) : Bool :=
  c = ' ' || c = '\t'

def atBreak (text : List Char) : Bool :=
  match text with
  | [] => true
  | c :: _ => isBreak c

def atSpace (text : List Char) : Bool :=
  atBreak text || text.head? == some ' '

def atGap (text : List Char) : Bool :=
  atSpace text || text.head? == some '\t'

/-- Whether three equal characters stand here alone. -/
def atMark (mark : Char) : List Char → Bool
  | a :: b :: c :: rest => a = mark && b = mark && c = mark && atGap rest
  | _ => false

/-- Whether the mark of a document's start or end stands here, at the start of a line. -/
def atDocumentMark (text : List Char) : Bool :=
  atMark '-' text || atMark '.' text

def isWordChar (c : Char) : Bool :=
  c.isAlphanum || c = '-' || c = '_'

def isHexDigit (c : Char) : Bool :=
  (Text.digitValue? 16 c).isSome

def isAllowed (c : Char) : Bool :=
  c = '\t' || c = '\n' || c = '\r' || c = '\u0085'
    || (0x20 ≤ c.toNat && c.toNat ≤ 0x7E)
    || (0xA0 ≤ c.toNat && c.toNat ≤ 0xD7FF)
    || (0xE000 ≤ c.toNat && c.toNat ≤ 0xFFFD)
    || 0x10000 ≤ c.toNat

end PrismaNest.Yaml
