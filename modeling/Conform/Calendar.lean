/-!
# Calendar — dates and day numbers

The Gregorian calendar, extended to all years. A day number counts days
from 1970-01-01. `CalendarDate.dayNumber` and `CalendarDate.ofDayNumber`
go between the two: a year has 365 days and a leap day every fourth year,
so days fall into cycles of 400, 100, 4 and 1 years.
-/


namespace Conform

/-- A year, a month from 1 to 12, and a day of the month from 1. -/
structure CalendarDate where
  year : Int
  month : Nat
  day : Nat
deriving DecidableEq, Repr, Inhabited

/-- The days of the week, Monday first. -/
inductive Weekday where
  | monday
  | tuesday
  | wednesday
  | thursday
  | friday
  | saturday
  | sunday
deriving DecidableEq, Repr, Inhabited

namespace Weekday

/-- The days of the week in order. -/
def all : List Weekday := [monday, tuesday, wednesday, thursday, friday, saturday, sunday]

/-- The abbreviated name. -/
def name : Weekday → String
  | monday => "Mon"
  | tuesday => "Tue"
  | wednesday => "Wed"
  | thursday => "Thu"
  | friday => "Fri"
  | saturday => "Sat"
  | sunday => "Sun"

/-- The day of the week with an abbreviated name. -/
def ofName? (name : String) : Option Weekday := all.find? fun d => d.name = name

/-- The weekday of a day number. Day 0 is a Thursday. -/
def ofDayNumber (n : Int) : Weekday := all.getD ((n + 3) % 7).toNat monday

end Weekday

/-- The English name of a month. -/
def monthName (month : Nat) : String :=
  ["January", "February", "March", "April", "May", "June", "July", "August", "September",
    "October", "November", "December"].getD (month - 1) ""

def isLeapYear (year : Int) : Bool := year % 4 = 0 && (year % 100 != 0 || year % 400 = 0)

/-- The lengths of the months of a year. -/
def monthLengths (leap : Bool) : List Nat :=
  [31, if leap then 29 else 28, 31, 30, 31, 30, 31, 31, 30, 31, 30, 31]

/-- The days from the start of year 1 to the start of a year. -/
def daysBeforeYear (year : Int) : Int :=
  365 * (year - 1) + (year - 1) / 4 - (year - 1) / 100 + (year - 1) / 400

/-- The days from the start of year 1 to day number 0. -/
def epochDays : Int := 719162

namespace CalendarDate

/-- The month and the day are in their ranges. -/
def isValid (d : CalendarDate) : Bool :=
  1 ≤ d.month && d.month ≤ 12 && 1 ≤ d.day &&
    d.day ≤ (monthLengths (isLeapYear d.year)).getD (d.month - 1) 0

/-- The days of the year before this one. -/
def dayOfYear (d : CalendarDate) : Nat :=
  ((monthLengths (isLeapYear d.year)).take (d.month - 1)).foldl (· + ·) 0 + (d.day - 1)

/-- The day number of a date. -/
def dayNumber (d : CalendarDate) : Int := daysBeforeYear d.year + d.dayOfYear - epochDays

/-- The month and the day of the month of the day with this many days before
it, where months of these lengths follow from `month` on. -/
def locate (month : Nat) : List Nat → Nat → Nat × Nat
  | [], rest => (month, rest + 1)
  | length :: lengths, rest =>
    if rest < length then (month, rest + 1) else locate (month + 1) lengths (rest - length)

/-- The date of a day number. -/
def ofDayNumber (n : Int) : CalendarDate :=
  let days := n + epochDays
  let fourCenturies := days / 146097
  let rest := days % 146097
  let centuries := min 3 (rest / 36524)
  let rest := rest - centuries * 36524
  let fours := rest / 1461
  let rest := rest % 1461
  let years := min 3 (rest / 365)
  let rest := rest - years * 365
  let year := 400 * fourCenturies + 100 * centuries + 4 * fours + years + 1
  let (month, day) := locate 1 (monthLengths (isLeapYear year)) rest.toNat
  ⟨year, month, day⟩

/-- A number with at least `width` digits. -/
def padded (width n : Nat) : String :=
  let digits := Nat.toDigits 10 n
  String.ofList (List.replicate (width - digits.length) '0' ++ digits)

/-- A year has four digits; outside the years 0 to 9999 it has a sign too. -/
def yearText (year : Int) : String :=
  if 0 ≤ year ∧ year ≤ 9999 then padded 4 year.toNat
  else (if year < 0 then "-" else "+") ++ padded 4 year.natAbs

/-- The date as year, month and day with dashes between them. -/
def text (d : CalendarDate) : String :=
  yearText d.year ++ "-" ++ padded 2 d.month ++ "-" ++ padded 2 d.day

end CalendarDate

end Conform
