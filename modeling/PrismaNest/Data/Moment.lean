import PrismaNest.Text.Quoted

/-! Dates and moments of time.

A date is a day of the Gregorian calendar from year 1 to 9999. A moment adds a time
of day down to the microsecond and, if it is known, the offset from universal time
in minutes. Two moments with offsets are the same if they denote the same instant.
-/

set_option autoImplicit false

namespace PrismaNest

structure Date where
  year : Nat
  month : Nat
  day : Nat
  deriving DecidableEq, Repr

structure Moment where
  date : Date
  hour : Nat
  minute : Nat
  second : Nat
  microsecond : Nat
  /-- Minutes ahead of universal time. -/
  offset : Option Int
  deriving DecidableEq, Repr

inductive CalendarFault where
  | year (number : Nat)
  | month
  | day
  | hour
  | minute
  | second
  | offset (minutes : Int)
  deriving DecidableEq, Repr

/-- A span of minutes, as days and seconds that are not negative. -/
def spanText (minutes : Int) : String :=
  let days := minutes.fdiv 1440
  let seconds := 60 * minutes.fmod 1440
  let parts := (if days = 0 then [] else ["days=" ++ toString days])
    ++ (if seconds = 0 then [] else ["seconds=" ++ toString seconds])
  "datetime.timedelta(" ++ (if parts.isEmpty then "0" else String.intercalate ", " parts) ++ ")"

def CalendarFault.message : CalendarFault → String
  | .year number => "year " ++ toString number ++ " is out of range"
  | .month => "month must be in 1..12"
  | .day => "day is out of range for month"
  | .hour => "hour must be in 0..23"
  | .minute => "minute must be in 0..59"
  | .second => "second must be in 0..59"
  | .offset minutes =>
    "offset must be a timedelta strictly between -timedelta(hours=24) and timedelta(hours=24), not "
      ++ spanText minutes ++ "."

def decimalPadded (width number : Nat) : String :=
  let digits := Nat.toDigits 10 number
  String.ofList (List.replicate (width - digits.length) '0' ++ digits)

namespace Date

def isLeapYear (year : Nat) : Bool :=
  year % 4 = 0 && (year % 100 != 0 || year % 400 = 0)

def daysInMonth (year month : Nat) : Nat :=
  if month = 2 then (if isLeapYear year then 29 else 28)
  else if month = 4 || month = 6 || month = 9 || month = 11 then 30
  else 31

def ofParts (year month day : Nat) : Except CalendarFault Date :=
  if year < 1 || 9999 < year then .error (.year year)
  else if month < 1 || 12 < month then .error .month
  else if day < 1 || daysInMonth year month < day then .error .day
  else .ok ⟨year, month, day⟩

def dayNumber (date : Date) : Nat :=
  let before := date.year - 1
  365 * before + before / 4 - before / 100 + before / 400
    + (List.range (date.month - 1)).foldl
      (fun days index => days + daysInMonth date.year (index + 1)) 0
    + date.day

def toText (date : Date) : String :=
  decimalPadded 4 date.year ++ "-" ++ decimalPadded 2 date.month ++ "-"
    ++ decimalPadded 2 date.day

end Date

namespace Moment

/-- The offset is checked first, then the date, then the time of day. -/
def ofParts (year month day hour minute second microsecond : Nat) (offset : Option Int) :
    Except CalendarFault Moment :=
  match offset.filter fun minutes => 1440 ≤ minutes.natAbs with
  | some minutes => .error (.offset minutes)
  | none =>
    match Date.ofParts year month day with
    | .error fault => .error fault
    | .ok date =>
      if 23 < hour then .error .hour
      else if 59 < minute then .error .minute
      else if 59 < second then .error .second
      else .ok ⟨date, hour, minute, second, microsecond, offset⟩

def universalMinutes (moment : Moment) : Int :=
  (moment.date.dayNumber * 1440 + moment.hour * 60 + moment.minute : Nat)
    - moment.offset.getD 0

def sameInstant (first second : Moment) : Bool :=
  first.offset.isSome = second.offset.isSome
    && first.universalMinutes = second.universalMinutes
    && first.second = second.second
    && first.microsecond = second.microsecond

def offsetText (minutes : Int) : String :=
  (if minutes < 0 then "-" else "+") ++ decimalPadded 2 (minutes.natAbs / 60) ++ ":"
    ++ decimalPadded 2 (minutes.natAbs % 60)

def toText (separator : String) (moment : Moment) : String :=
  moment.date.toText ++ separator ++ decimalPadded 2 moment.hour ++ ":"
    ++ decimalPadded 2 moment.minute ++ ":" ++ decimalPadded 2 moment.second
    ++ (if moment.microsecond = 0 then "" else "." ++ decimalPadded 6 moment.microsecond)
    ++ (moment.offset.map offsetText).getD ""

end Moment

end PrismaNest
