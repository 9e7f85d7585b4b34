import PrismaNest.Number.Binary64

/-! The shortest decimal text of a number.

Of all decimals that read back as a number, the one with the fewest digits is
written, and of those the nearest. It is written positionally from 0.0001 on and
below 10^16, always with a fraction, and otherwise with an exponent of at least two
digits.
-/

set_option autoImplicit false

namespace PrismaNest

namespace Binary64

/-- Whether a fraction is at least a power of ten. -/
def atLeastPowerOfTen (numerator denominator : Nat) : Int → Bool
  | .ofNat power => denominator * powerOfTen power ≤ numerator
  | .negSucc power => denominator ≤ numerator * powerOfTen (power + 1)

def leadingExponent (numerator denominator : Nat) : Int :=
  let guess := ((Nat.log2 numerator : Int) - Nat.log2 denominator) * 30103 / 100000
  if !atLeastPowerOfTen numerator denominator guess then guess - 1
  else if atLeastPowerOfTen numerator denominator (guess + 1) then guess + 1
  else guess

def inUnits (unit : Int) (numerator denominator : Nat) : Nat × Nat :=
  match unit with
  | .ofNat power => (numerator, denominator * powerOfTen power)
  | .negSucc power => (numerator * powerOfTen (power + 1), denominator)

/-- The coefficient nearest to a number, in some unit, among those that read back as it. -/
def coefficientAt? (significand : Nat) (exponent unit : Int) : Option Nat :=
  let (numerator, denominator) := magnitude significand exponent
  let (top, bottom) := inUnits unit numerator denominator
  let below := top / bottom
  let readsBack (coefficient : Nat) : Bool :=
    ofDecimal ⟨false, coefficient, unit⟩ = .finite false significand exponent
  match readsBack below, readsBack (below + 1) with
  | true, true => some (roundHalfEven top bottom)
  | true, false => some below
  | false, true => some (below + 1)
  | false, false => none

/-- The shortest decimal of a positive number: coefficient and exponent. -/
def shortest (significand : Nat) (exponent : Int) : Nat × Int :=
  let (numerator, denominator) := magnitude significand exponent
  let leading := leadingExponent numerator denominator
  ((List.range 17).findSome? fun (more : Nat) =>
      (coefficientAt? significand exponent (leading - (more : Int))).map
        (·, leading - (more : Int))).getD
    (significand, 0)

/-- Decimal digits without zeros at the end, and the exponent after the first of them. -/
def significantDigits (coefficient : Nat) (unit : Int) : List Char × Int :=
  let digits := Nat.toDigits 10 coefficient
  ((digits.reverse.dropWhile (· = '0')).reverse, unit + digits.length)

/-- Digits with a point in the right place, and at least one digit on both sides of it. -/
def positional (digits : List Char) (point : Int) : List Char :=
  if point ≤ 0 then
    '0' :: '.' :: List.replicate point.natAbs '0' ++ digits
  else
    let whole := point.toNat
    let fraction := digits.drop whole
    digits.take whole ++ List.replicate (whole - digits.length) '0'
      ++ '.' :: (if fraction.isEmpty then ['0'] else fraction)

/-- Digits with the point after the first of them, and an exponent. -/
def scientific (digits : List Char) (point : Int) : List Char :=
  let exponent := point - 1
  let size := Nat.toDigits 10 exponent.natAbs
  let fraction := digits.drop 1
  digits.take 1 ++ (if fraction.isEmpty then [] else '.' :: fraction)
    ++ 'e' :: (if exponent < 0 then '-' else '+') :: List.replicate (2 - size.length) '0' ++ size

def toText : Binary64 → String
  | .nan => "nan"
  | .infinite negative => if negative then "-inf" else "inf"
  | .finite negative significand exponent =>
    let sign := if negative then "-" else ""
    if significand = 0 then sign ++ "0.0"
    else
      let (coefficient, unit) := shortest significand exponent
      let (digits, point) := significantDigits coefficient unit
      sign ++ String.ofList
        (if -4 < point ∧ point ≤ 16 then positional digits point else scientific digits point)

end Binary64

end PrismaNest
