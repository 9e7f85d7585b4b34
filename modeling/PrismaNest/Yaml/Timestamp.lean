import PrismaNest.Data.Value
import PrismaNest.Text.Lines
import PrismaNest.Yaml.Token

/-! Dates and times as scalars write them.

A date has a year of four digits, a month and a day. A time follows a `T` or spaces;
it may have a fraction of a second and a zone. A date alone counts as a timestamp
only if month and day have two digits. A line feed at the very end is tolerated.
-/

set_option autoImplicit false

namespace PrismaNest.Yaml

inductive Zone where
  | universal
  | offset (negative : Bool) (hours minutes : Nat)
  deriving DecidableEq, Repr

structure TimeOfDay where
  hour : Nat
  minute : Nat
  second : Nat
  /-- The digits of the fraction of a second. -/
  fraction : List Char
  zone : Option Zone
  deriving DecidableEq, Repr

structure Timestamp where
  year : Nat
  month : List Char
  day : List Char
  time : Option TimeOfDay
  deriving DecidableEq, Repr

namespace Timestamp

def number (digits : List Char) : Nat :=
  (Text.digitsValue? 10 digits).getD 0

def digits? (least most : Nat) (text : List Char) : Option (List Char × List Char) :=
  let digits := (text.take most).takeWhile Char.isDigit
  if digits.length < least then none else some (digits, text.drop digits.length)

def char? (c : Char) : List Char → Option (List Char)
  | d :: rest => if d = c then some rest else none
  | [] => none

def zone? (text : List Char) : Option Zone := do
  match text with
  | ['Z'] => some .universal
  | sign :: rest =>
    if sign != '-' && sign != '+' then none
    else
      let (hours, after) ← digits? 1 2 rest
      match after with
      | [] => some (.offset (sign = '-') (number hours) 0)
      | c :: more =>
        let (minutes, last) ← digits? 2 2 more
        if c = ':' && last.isEmpty then some (.offset (sign = '-') (number hours) (number minutes))
        else none
  | [] => none

def time? (text : List Char) : Option TimeOfDay := do
  let (hour, afterHour) ← digits? 1 2 text
  let (minute, afterMinute) ← digits? 2 2 (← char? ':' afterHour)
  let (second, afterSecond) ← digits? 2 2 (← char? ':' afterMinute)
  let (fraction, rest) :=
    match afterSecond with
    | '.' :: more => (more.takeWhile Char.isDigit, more.dropWhile Char.isDigit)
    | other => ([], other)
  let zoned := rest.dropWhile isGap
  let time (zone : Option Zone) : TimeOfDay :=
    ⟨number hour, number minute, number second, fraction, zone⟩
  if rest.isEmpty then some (time none) else (zone? zoned).map fun zone => time (some zone)

/-- What separates a date from a time, taken off a text. -/
def afterSeparator? : List Char → Option (List Char)
  | c :: rest =>
    if c = 'T' || c = 't' then some rest
    else if isGap c then some (rest.dropWhile isGap)
    else none
  | [] => none

def ofText? (text : List Char) : Option Timestamp := do
  let (year, afterYear) ← digits? 4 4 (Text.withoutLastBreak text)
  let (month, afterMonth) ← digits? 1 2 (← char? '-' afterYear)
  let (day, rest) ← digits? 1 2 (← char? '-' afterMonth)
  if rest.isEmpty then some ⟨number year, month, day, none⟩
  else
    let time ← time? (← afterSeparator? rest)
    some ⟨number year, month, day, some time⟩

/-- Whether a plain scalar of this form is taken for a timestamp. -/
def isResolved (timestamp : Timestamp) : Bool :=
  timestamp.time.isSome || (timestamp.month.length = 2 && timestamp.day.length = 2)

/-- The first six digits of a fraction, filled up with zeros. -/
def microseconds (fraction : List Char) : Nat :=
  number (fraction.take 6 ++ List.replicate (6 - fraction.length) '0')

def Zone.minutes : Zone → Int
  | .universal => 0
  | .offset negative hours minutes =>
    let size : Int := hours * 60 + minutes
    if negative then -size else size

def toValue (timestamp : Timestamp) : Except CalendarFault Value :=
  let { year, month, day, time } := timestamp
  match time with
  | none => (Date.ofParts year (number month) (number day)).map Value.date
  | some time =>
    (Moment.ofParts year (number month) (number day) time.hour time.minute time.second
      (microseconds time.fraction) (time.zone.map Zone.minutes)).map Value.moment

end Timestamp

end PrismaNest.Yaml
