import PrismaNest.Text.Quoted

/-! Reading bytes as UTF-8, with the place of the first fault.

A sequence of bytes is read one character at a time. A byte that cannot open a
character, a byte that cannot continue one, and an input that ends inside a
character are told apart, and a fault covers the bytes of the character read so
far.
-/

set_option autoImplicit false

namespace PrismaNest.Text

inductive Utf8Reason where
  | invalidStart
  | invalidContinuation
  | unexpectedEnd
  deriving DecidableEq, Repr

/-- The first bytes that are no character: where they start, how many, and the first of them. -/
structure Utf8Fault where
  start : Nat
  length : Nat
  lead : UInt8
  reason : Utf8Reason
  deriving DecidableEq, Repr

structure OpenChar where
  start : Nat
  lead : UInt8
  seen : Nat
  missing : Nat
  low : UInt8
  high : UInt8

/-- How a character of more than one byte starts, with the bounds of its second byte. -/
def OpenChar.ofLead? (position : Nat) (lead : UInt8) : Option OpenChar :=
  if 0xC2 ≤ lead && lead ≤ 0xDF then some ⟨position, lead, 1, 1, 0x80, 0xBF⟩
  else if lead = 0xE0 then some ⟨position, lead, 1, 2, 0xA0, 0xBF⟩
  else if lead = 0xED then some ⟨position, lead, 1, 2, 0x80, 0x9F⟩
  else if 0xE1 ≤ lead && lead ≤ 0xEF then some ⟨position, lead, 1, 2, 0x80, 0xBF⟩
  else if lead = 0xF0 then some ⟨position, lead, 1, 3, 0x90, 0xBF⟩
  else if lead = 0xF4 then some ⟨position, lead, 1, 3, 0x80, 0x8F⟩
  else if 0xF1 ≤ lead && lead ≤ 0xF3 then some ⟨position, lead, 1, 3, 0x80, 0xBF⟩
  else none

/-- The character after one more of its bytes, or nothing if it is complete. -/
def OpenChar.next? (char : OpenChar) : Option OpenChar :=
  if char.missing ≤ 1 then none
  else some { char with
    seen := char.seen + 1, missing := char.missing - 1, low := 0x80, high := 0xBF }

def OpenChar.fault (char : OpenChar) (reason : Utf8Reason) : Utf8Fault :=
  ⟨char.start, char.seen, char.lead, reason⟩

/-- The first fault of the bytes from a position on, inside a character or between two. -/
def firstFaultFrom (position : Nat) : Option OpenChar → List UInt8 → Utf8Fault
  | none, [] => ⟨position, 0, 0, .unexpectedEnd⟩
  | some char, [] => char.fault .unexpectedEnd
  | none, byte :: rest =>
    if byte < 0x80 then firstFaultFrom (position + 1) none rest
    else match OpenChar.ofLead? position byte with
      | some char => firstFaultFrom (position + 1) (some char) rest
      | none => ⟨position, 1, byte, .invalidStart⟩
  | some char, byte :: rest =>
    if char.low ≤ byte && byte ≤ char.high then
      firstFaultFrom (position + 1) char.next? rest
    else char.fault .invalidContinuation

def decodeUtf8 (bytes : ByteArray) : Except Utf8Fault String :=
  match String.fromUTF8? bytes with
  | some text => .ok text
  | none => .error (firstFaultFrom 0 none bytes.toList)

@[simp] theorem decodeUtf8_toUTF8 (text : String) : decodeUtf8 text.toUTF8 = .ok text := by
  have valid : String.fromUTF8? text.toUTF8 = some text := by
    simp [String.fromUTF8?, String.toUTF8, text.isValidUTF8, String.fromUTF8]
  rw [decodeUtf8, valid]

def Utf8Reason.message : Utf8Reason → String
  | .invalidStart => "invalid start byte"
  | .invalidContinuation => "invalid continuation byte"
  | .unexpectedEnd => "unexpected end of data"

def Utf8Fault.message (fault : Utf8Fault) : String :=
  let place :=
    if fault.length ≤ 1 then
      "byte 0x" ++ String.ofList (hexPadded 2 fault.lead.toNat)
        ++ " in position " ++ toString fault.start
    else "bytes in position " ++ toString fault.start ++ "-"
      ++ toString (fault.start + fault.length - 1)
  "'utf-8' codec can't decode " ++ place ++ ": " ++ fault.reason.message

end PrismaNest.Text
