import PrismaNest.Number.Shortest
import PrismaNest.Text.Blank
import PrismaNest.Text.LowerCase
import PrismaNest.Yaml.Tag

/-! The values of scalars.

Underscores in numbers are dropped. A leading zero makes a whole number octal, and
parts between colons count sixty of the next. A scalar whose tag asks for a number
that its text does not write is a fault. Digits of every script count.
-/

set_option autoImplicit false

namespace PrismaNest.Yaml

def takeSign (text : List Char) : Bool × List Char :=
  (text.head? == some '-', unsigned text)

/-- The letters that may follow a zero as the mark of a base. -/
def baseMarks : Nat → List Char
  | 2 => ['b', 'B']
  | 8 => ['o', 'O']
  | 16 => ['x', 'X']
  | _ => []

def withoutBaseMark (base : Nat) : List Char → List Char
  | '0' :: mark :: digits =>
    if (baseMarks base).contains mark then digits else '0' :: mark :: digits
  | digits => digits

/-- A whole number in some base, with blanks around it, a sign, and perhaps the mark of the base. -/
def wholeInBase (base : Nat) (text : List Char) : Except ScalarFault Int :=
  let (negative, marked) := takeSign ((Text.trim text).map Text.asciiDigit)
  let digits := withoutBaseMark base marked
  if base = 10 && digits.all Char.isDigit && Text.maxIntegerDigits < digits.length then
    .error (.longInteger digits.length)
  else
    match if digits.isEmpty then none else Text.digitsValue? base digits with
    | none => .error (.notWhole base (String.ofList text))
    | some size => .ok (if negative then -size else size)

def ofSixtieths (parts : List Int) : Int :=
  parts.foldl (fun total part => total * 60 + part) 0

def wholeNumber (text : List Char) : Except ScalarFault Int :=
  let (negative, digits) := takeSign (text.filter (· ≠ '_'))
  let size : Except ScalarFault Int :=
    match digits with
    | ['0'] => .ok 0
    | '0' :: 'b' :: binary => wholeInBase 2 binary
    | '0' :: 'x' :: hexadecimal => wholeInBase 16 hexadecimal
    | '0' :: _ => wholeInBase 8 digits
    | _ =>
      if digits.contains ':' then
        ((digits.splitOnP (· = ':')).mapM (wholeInBase 10)).map ofSixtieths
      else wholeInBase 10 digits
  size.map fun size => if negative then -size else size

/-- Digits with perhaps a point among them and an exponent after them. -/
def decimal? (text : List Char) : Option Decimal :=
  let mantissa := text.takeWhile (· ≠ 'e')
  let whole := mantissa.takeWhile (· ≠ '.')
  let fraction := (mantissa.dropWhile (· ≠ '.')).drop 1
  let exponent : Option Int :=
    match text.dropWhile (· ≠ 'e') with
    | [] => some 0
    | _ :: written =>
      let (negative, digits) := takeSign written
      if digits.isEmpty then none
      else (Text.digitsValue? 10 digits).map fun size => if negative then -size else size
  if (whole ++ fraction).isEmpty then none
  else do
    let coefficient ← Text.digitsValue? 10 (whole ++ fraction)
    return ⟨false, coefficient, (← exponent) - fraction.length⟩

def pointNumber (text : List Char) : Except ScalarFault Binary64 :=
  let (negative, bare) := takeSign ((Text.trim text).map Text.asciiDigit)
  let sign (number : Binary64) : Binary64 := if negative then number.negate else number
  if bare = "inf".toList || bare = "infinity".toList then .ok (sign (.infinite false))
  else if bare = "nan".toList then .ok .nan
  else
    match decimal? bare with
    | none => .error (.notNumber (String.ofList text))
    | some decimal => .ok (sign (Binary64.ofDecimal decimal))

/-- The sum of parts from the last one on, each counting sixty of the next. -/
def sumOfSixtieths (parts : List Binary64) : Binary64 :=
  (parts.reverse.foldl (fun (total, base) part =>
    (Binary64.add total (part.mul (.ofInt base)), base * 60)) (Binary64.zero false, (1 : Int))).1

def realNumber (text : List Char) : Except ScalarFault Binary64 :=
  let small := Text.lower (String.ofList (text.filter (· ≠ '_')))
  let (negative, bare) := takeSign small.toList
  let sign (number : Binary64) : Binary64 := if negative then number.negate else number
  if bare = ".inf".toList then .ok (sign (.infinite false))
  else if bare = ".nan".toList then .ok .nan
  else if bare.contains ':' then
    ((bare.splitOnP (· = ':')).mapM pointNumber).map fun parts => sign (sumOfSixtieths parts)
  else (pointNumber bare).map sign

def scalarValue (tag : Tag) (text : String) : Read Value :=
  let chars := text.toList
  match tag with
  | .null => .ok .null
  | .bool =>
    let small := Text.lower text
    if trueWords.contains small then .ok (.bool true)
    else if falseWords.contains small then .ok (.bool false)
    else .error (.scalar (.notTruth small))
  | .int =>
    if (unsigned (chars.filter (· ≠ '_'))).isEmpty then .error (.scalar .noDigits)
    else ((wholeNumber chars).map Value.int).mapError Fault.scalar
  | .float =>
    if (chars.filter (· ≠ '_')).isEmpty then .error (.scalar .noDigits)
    else ((realNumber chars).map Value.float).mapError Fault.scalar
  | .timestamp =>
    match Timestamp.ofText? chars with
    | none => .error (.scalar .notMoment)
    | some timestamp => timestamp.toValue.mapError fun fault => .scalar (.calendar fault)
  | .text => .ok (.text text)
  | .sequence | .mapping | .merge | .default | .unknown => malformed

end PrismaNest.Yaml
