/-! Binary floating-point numbers of double precision, as exact data.

A finite number is a significand of at most 53 bits times a power of two. Every
operation is done exactly on fractions of whole numbers and rounded once, to the
nearest number, a tie going to the even significand. Results beyond the largest
finite number are infinite.
-/

set_option autoImplicit false

namespace PrismaNest

/-- A double-precision number; the finite ones are `±significand * 2 ^ exponent`. -/
inductive Binary64 where
  | nan
  | infinite (negative : Bool)
  | finite (negative : Bool) (significand : Nat) (exponent : Int)
  deriving DecidableEq, Repr

def powerOfTwo (exponent : Nat) : Nat :=
  Nat.pow 2 exponent

def powerOfTen (exponent : Nat) : Nat :=
  Nat.pow 10 exponent

/-- A quotient rounded to the nearest whole number, a half to the even one. -/
def roundHalfEven (numerator denominator : Nat) : Nat :=
  let quotient := numerator / denominator
  let twice := 2 * (numerator % denominator)
  if twice < denominator then quotient
  else if denominator < twice then quotient + 1
  else if quotient % 2 = 0 then quotient else quotient + 1

/-- A rounded quotient is off by at most one half. -/
theorem roundHalfEven_near (numerator denominator : Nat) (positive : 0 < denominator) :
    2 * numerator ≤ 2 * (roundHalfEven numerator denominator * denominator) + denominator ∧
      2 * (roundHalfEven numerator denominator * denominator) ≤ 2 * numerator + denominator := by
  have whole := Nat.div_add_mod numerator denominator
  have part := Nat.mod_lt numerator positive
  have next : (numerator / denominator + 1) * denominator
      = denominator * (numerator / denominator) + denominator := by
    rw [Nat.add_mul, Nat.one_mul, Nat.mul_comm]
  have same : numerator / denominator * denominator
      = denominator * (numerator / denominator) := Nat.mul_comm _ _
  unfold roundHalfEven
  dsimp only
  split
  · omega
  · split
    · omega
    · split <;> omega

/-- A decimal number: `±coefficient * 10 ^ exponent`. -/
structure Decimal where
  negative : Bool
  coefficient : Nat
  exponent : Int
  deriving DecidableEq, Repr

namespace Binary64

def leastExponent : Int := -1074

def greatestExponent : Int := 971

def zero (negative : Bool) : Binary64 :=
  .finite negative 0 leastExponent

def scaled (exponent : Int) (numerator denominator : Nat) : Nat × Nat :=
  match exponent with
  | .ofNat power => (numerator, denominator * powerOfTwo power)
  | .negSucc power => (numerator * powerOfTwo (power + 1), denominator)

/-- The exponent that gives a fraction a significand of 53 bits, or the least one. -/
def exponentFor (numerator denominator : Nat) : Int :=
  let guess : Int := (Nat.log2 numerator : Int) - Nat.log2 denominator - 53
  let (top, bottom) := scaled guess numerator denominator
  max leastExponent (if top / bottom < powerOfTwo 53 then guess else guess + 1)

def ofRatio (negative : Bool) (numerator denominator : Nat) : Binary64 :=
  if numerator = 0 then zero negative
  else
    let exponent := exponentFor numerator denominator
    let (top, bottom) := scaled exponent numerator denominator
    let rounded := roundHalfEven top bottom
    let (significand, power) :=
      if rounded = powerOfTwo 53 then (powerOfTwo 52, exponent + 1) else (rounded, exponent)
    if greatestExponent < power then .infinite negative else .finite negative significand power

def ofInt (number : Int) : Binary64 :=
  ofRatio (number < 0) number.natAbs 1

/-- The number nearest to a decimal; one far out of range is not computed. -/
def ofDecimal (decimal : Decimal) : Binary64 :=
  if decimal.coefficient = 0 then zero decimal.negative
  else if decimal.exponent > 400 then .infinite decimal.negative
  else if decimal.exponent + Nat.log2 decimal.coefficient < -400 then zero decimal.negative
  else match decimal.exponent with
    | .ofNat power => ofRatio decimal.negative (decimal.coefficient * powerOfTen power) 1
    | .negSucc power => ofRatio decimal.negative decimal.coefficient (powerOfTen (power + 1))

def magnitude (significand : Nat) : Int → Nat × Nat
  | .ofNat power => (significand * powerOfTwo power, 1)
  | .negSucc power => (significand, powerOfTwo (power + 1))

def negate : Binary64 → Binary64
  | .nan => .nan
  | .infinite negative => .infinite !negative
  | .finite negative significand exponent => .finite (!negative) significand exponent

def add : Binary64 → Binary64 → Binary64
  | .nan, _ | _, .nan => .nan
  | .infinite first, .infinite second => if first = second then .infinite first else .nan
  | .infinite negative, .finite .. | .finite .., .infinite negative => .infinite negative
  | .finite firstNegative firstSignificand firstExponent,
      .finite secondNegative secondSignificand secondExponent =>
    let (top1, bottom1) := magnitude firstSignificand firstExponent
    let (top2, bottom2) := magnitude secondSignificand secondExponent
    let signed (negative : Bool) (number : Nat) : Int := if negative then -number else number
    let sum := signed firstNegative (top1 * bottom2) + signed secondNegative (top2 * bottom1)
    if sum = 0 then zero (firstNegative && secondNegative)
    else ofRatio (sum < 0) sum.natAbs (bottom1 * bottom2)

def sub (first second : Binary64) : Binary64 :=
  first.add second.negate

def mul : Binary64 → Binary64 → Binary64
  | .nan, _ | _, .nan => .nan
  | .infinite first, .infinite second => .infinite (first != second)
  | .infinite first, .finite second significand _
  | .finite second significand _, .infinite first =>
    if significand = 0 then .nan else .infinite (first != second)
  | .finite firstNegative firstSignificand firstExponent,
      .finite secondNegative secondSignificand secondExponent =>
    let (top1, bottom1) := magnitude firstSignificand firstExponent
    let (top2, bottom2) := magnitude secondSignificand secondExponent
    ofRatio (firstNegative != secondNegative) (top1 * top2) (bottom1 * bottom2)

def toInt? : Binary64 → Option Int
  | .finite negative significand exponent =>
    let (top, bottom) := magnitude significand exponent
    if top % bottom = 0 then
      some (if negative then -(top / bottom : Int) else (top / bottom : Nat))
    else none
  | _ => none

/-- Whether two numbers are equal in value: zeros are, and nothing equals a NaN. -/
def sameValue : Binary64 → Binary64 → Bool
  | .nan, _ | _, .nan => false
  | .finite _ 0 _, .finite _ 0 _ => true
  | first, second => first = second

end Binary64

end PrismaNest
