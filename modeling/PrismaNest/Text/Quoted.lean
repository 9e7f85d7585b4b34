import PrismaNest.Text.Printable

/-! Quoted texts, as messages show them.

A text stands between single quotes, or between double quotes if it holds single
quotes and no double ones. Backslashes, the quote in use and everything that has
no printed form are escaped, the latter by the shortest of the two-, four- and
eight-digit escapes that fits.
-/

set_option autoImplicit false

namespace PrismaNest.Text

def hexPadded (width number : Nat) : List Char :=
  let digits := Nat.toDigits 16 number
  List.replicate (width - digits.length) '0' ++ digits

def quoteMark (text : List Char) : Char :=
  if text.contains '\x27' && !text.contains '"' then '"' else '\x27'

def escapeChar (quote c : Char) : List Char :=
  if c = quote || c = '\\' then ['\\', c]
  else if c = '\n' then ['\\', 'n']
  else if c = '\r' then ['\\', 'r']
  else if c = '\t' then ['\\', 't']
  else if isPrintable c then [c]
  else if c.toNat < 0x100 then '\\' :: 'x' :: hexPadded 2 c.toNat
  else if c.toNat < 0x10000 then '\\' :: 'u' :: hexPadded 4 c.toNat
  else '\\' :: 'U' :: hexPadded 8 c.toNat

/-- A text between quotes, with everything escaped that would not show. -/
def quoted (text : String) : String :=
  let quote := quoteMark text.toList
  String.ofList (quote :: text.toList.flatMap (escapeChar quote) ++ [quote])

end PrismaNest.Text
