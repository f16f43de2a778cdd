import Clearance.Text.Numeral

/-!
# Days

A day is its distance from the first of January 1970. It is written as a date of the Gregorian
calendar: year, month and day in four, two and two digits, or year, week and day of the week in
four digits, a `W` with two digits and one digit, where the last day may be left out and stands
for Monday. Hyphens stand between all parts or between none. A date takes seven, eight or ten
bytes, and what is left behind a complete date within that length does not count.
-/

set_option autoImplicit false

namespace Clearance.Commodity

/-- A day, as the number of days since the first of January 1970. -/
abbrev Day : Type := Int

/-- Why a text is no date. -/
inductive DateFault where
  | malformed (text : String)
  | noYear (year : Nat)
  | noMonth
  | noDay
  deriving DecidableEq, Repr

/-- The wording of a failed reading of a date. -/
def DateFault.message : DateFault → String
  | malformed text => s!"Invalid isoformat string: {Text.quoted text}"
  | noYear year => s!"year {year} is out of range"
  | noMonth => "month must be in 1..12"
  | noDay => "day is out of range for month"

namespace Day

/-- The day of a date of the Gregorian calendar. The years are counted from March on, so that a
leap day is the last of its year. -/
def ofDate (year month day : Int) : Day :=
  let y := if month ≤ 2 then year - 1 else year
  let era := Int.fdiv y 400
  let yearOfEra := y - era * 400
  let dayOfYear := Int.fdiv (153 * (if 2 < month then month - 3 else month + 9) + 2) 5 + day - 1
  let dayOfEra := yearOfEra * 365 + Int.fdiv yearOfEra 4 - Int.fdiv yearOfEra 100 + dayOfYear
  era * 146097 + dayOfEra - 719468

/-- The seconds of a day. -/
def seconds : Int := 86400

/-- The last year of the calendar. -/
def maxYear : Nat := 9999

/-- Whether a year has a leap day. -/
def isLeap (year : Nat) : Bool := year % 4 == 0 && (year % 100 != 0 || year % 400 == 0)

/-- The length of a month. -/
def monthLength (year month : Nat) : Nat :=
  if month == 2 then if isLeap year then 29 else 28
  else if month == 4 || month == 6 || month == 9 || month == 11 then 30
  else 31

/-- The day of the week, counted from Monday, which is zero. -/
def weekday (day : Day) : Int := Int.fmod (day + 3) 7

/-- The Monday of the first week of a year, the week that has the first Thursday of the year. -/
def firstMonday (year : Nat) : Day :=
  let newYear := ofDate year 1 1
  let monday := newYear - weekday newYear
  if 3 < weekday newYear then monday + 7 else monday

/-- Whether a year has 53 weeks. -/
def isLong (year : Nat) : Bool :=
  let first := weekday (ofDate year 1 1)
  first == 3 || (first == 2 && isLeap year)

/-- The day of a year, month and day of the month. -/
def ofParts (year month day : Nat) : Except DateFault Day :=
  if year == 0 || maxYear < year then .error (.noYear year)
  else if month == 0 || 12 < month then .error .noMonth
  else if day == 0 || monthLength year month < day then .error .noDay
  else .ok (ofDate year month day)

/-- The day of a year, week and day of the week; none if there is no such week or day of the
week. -/
def ofWeek? (year week day : Nat) : Option (Except DateFault Day) :=
  if week == 0 || 53 < week || (week == 53 && !isLong year) || day == 0 || 7 < day then none
  else
    let result := firstMonday year + (week - 1) * 7 + day - 1
    if year == 0 then some (.error .noMonth)
    else if ofDate maxYear 12 31 < result then some (.error (.noYear (maxYear + 1)))
    else some (.ok result)

/-- The number that the first `count` characters write, if these are ASCII digits, and what
follows. -/
def takeDigits? (count : Nat) (text : List Char) : Option (Nat × List Char) :=
  let digits := text.take count
  if digits.length == count && digits.all Char.isDigit then
    some (Text.ofDigits 10 (digits.map fun c => c.toNat - '0'.toNat), text.drop count)
  else none

/-- What follows a hyphen, or the text itself if no hyphen is asked for. -/
def afterHyphen? (isAsked : Bool) (text : List Char) : Option (List Char) :=
  if isAsked then
    match text with
    | '-' :: rest => some rest
    | _ => none
  else some text

/-- The day of the week behind a week; Monday if nothing follows. -/
def readWeekday? (isHyphenated : Bool) (text : List Char) : Option Nat :=
  if text.isEmpty then some 1
  else do
    let (day, _) ← takeDigits? 1 (← afterHyphen? isHyphenated text)
    pure day

/-- The date that a text writes, its length left aside; none if it does not have the form of
one. -/
def readParts? (text : List Char) : Option (Except DateFault Day) := do
  let (year, rest) ← takeDigits? 4 text
  let isHyphenated := rest.head? == some '-'
  let rest ← afterHyphen? isHyphenated rest
  match rest with
  | 'W' :: rest =>
    let (week, rest) ← takeDigits? 2 rest
    ofWeek? year week (← readWeekday? isHyphenated rest)
  | _ =>
    let (month, rest) ← takeDigits? 2 rest
    let (day, _) ← takeDigits? 2 (← afterHyphen? isHyphenated rest)
    pure (ofParts year month day)

/-- The lengths, in bytes, that a date may have. -/
def lengths : List Nat := [7, 8, 10]

/-- The day of a date. -/
def read (text : String) : Except DateFault Day :=
  match readParts? text.toList with
  | some result => if lengths.contains text.utf8ByteSize then result else .error (.malformed text)
  | none => .error (.malformed text)

end Day

end Clearance.Commodity
