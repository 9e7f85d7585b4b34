/-! Characters given by code points.

A code point beyond the first 65536 may be given in two halves, a high and a low
surrogate. Neither half is a character by itself; the replacement character stands
for a half that is alone. This is a limit: a text with half a code point in it, which
cannot be encoded, is not described, and is not told from one with that character.
-/

set_option autoImplicit false

namespace PrismaNest.Text

def isHighSurrogate (code : Nat) : Bool :=
  0xD800 ≤ code && code < 0xDC00

def isLowSurrogate (code : Nat) : Bool :=
  0xDC00 ≤ code && code < 0xE000

def charOf (code : Nat) : Char :=
  if isHighSurrogate code || isLowSurrogate code then '\uFFFD' else Char.ofNat code

def joinedSurrogates (high low : Nat) : Char :=
  Char.ofNat (0x10000 + (high - 0xD800) * 0x400 + (low - 0xDC00))

end PrismaNest.Text
