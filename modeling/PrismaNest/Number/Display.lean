import PrismaNest.Number.Binary64

/-! Numbers as reports show them: a fixed number of decimal places, and whole
numbers with their thousands grouped.
-/

set_option autoImplicit false

namespace PrismaNest

def padLeft (width : Nat) (text : String) : String :=
  String.ofList (List.replicate (width - text.length) ' ') ++ text

def padRight (width : Nat) (text : String) : String :=
  text ++ String.ofList (List.replicate (width - text.length) ' ')

/-- A number with a fixed number of places, rounded to the nearest, a half to the even digit. -/
def Binary64.toFixed (places : Nat) : Binary64 → String
  | .nan => "nan"
  | .infinite negative => if negative then "-inf" else "inf"
  | .finite negative significand exponent =>
    let (numerator, denominator) := Binary64.magnitude significand exponent
    let digits := Nat.toDigits 10 (roundHalfEven (numerator * powerOfTen places) denominator)
    let padded := List.replicate (places + 1 - digits.length) '0' ++ digits
    let whole := padded.length - places
    (if negative then "-" else "")
      ++ String.ofList (padded.take whole ++ '.' :: padded.drop whole)

/-- Digits, read backwards, with a comma after every third. -/
def groupThousands : List Char → List Char
  | a :: b :: c :: d :: rest => a :: b :: c :: ',' :: groupThousands (d :: rest)
  | digits => digits

def grouped (number : Int) : String :=
  (if number < 0 then "-" else "")
    ++ String.ofList (groupThousands (Nat.toDigits 10 number.natAbs).reverse).reverse

end PrismaNest
