import Conform.Checked
import Conform.DateOffset
import Conform.Instant.Reader
/-!
# Date — the rule for points in time

A date is read, shifted by an offset if one is given, and then checked.
Each kind of requirement has one slot: stating it again replaces it. The
slots are checked in a fixed order, and the first that fails is reported.
All parts of a date are those of UTC.

Strict input is a timestamp. Unless strict, plain dates and milliseconds
since 1970-01-01 are taken too.
-/


namespace Conform

/-- What can be required of a date. -/
inductive DateConstraint where
  | before (bound : Instant)
  | after (bound : Instant)
  /-- The distance in days from the current day. -/
  | distance (days : Int)
  | weekday (day : Weekday)
  | dayOfMonth (day : Nat)
  | month (month : Nat)
  | year (year : Int)
deriving DecidableEq, Repr

/-- What is required of a date. -/
structure DateRule where
  offset : Option DateOffset := none
  earlierThan : Option Instant := none
  laterThan : Option Instant := none
  /-- The distance in days from the current day. -/
  daysFromToday : Option Int := none
  weekday : Option Weekday := none
  dayOfMonth : Option Nat := none
  month : Option Nat := none
  year : Option Int := none
deriving DecidableEq, Repr, Inhabited

namespace DateConstraint

/-- The date meets the constraint, where `today` is the current day. -/
def holds (c : DateConstraint) (today : Int) (t : Instant) : Bool :=
  match c with
  | before bound => t.before bound
  | after bound => bound.before t
  | distance days => Instant.isSupported (today + days) && t.day = today + days
  | weekday wanted => t.weekday = wanted
  | dayOfMonth wanted => t.date.day = wanted
  | month wanted => t.date.month = wanted
  | year wanted => t.date.year = wanted

def code : DateConstraint → String
  | before _ => "before"
  | after _ => "after"
  | distance _ => "days_from_today"
  | weekday _ => "weekday"
  | dayOfMonth _ => "day_of_month"
  | month _ => "month"
  | year _ => "year"

/-- A distance from the current day, in words. -/
def distanceText (days : Int) : String :=
  if days = 0 then "today"
  else if 0 < days then toString days ++ " days ahead"
  else toString days.natAbs ++ " days ago"

/-- What a date that fails is told. -/
def message (c : DateConstraint) (today : Int) (t : Instant) : String :=
  match c with
  | before bound => "must be before " ++ bound.text ++ ", got " ++ t.text
  | after bound => "must be after " ++ bound.text ++ ", got " ++ t.text
  | distance days =>
    if Instant.isSupported (today + days) then
      "must be " ++ distanceText days ++ ", got " ++ t.date.text
    else "must be " ++ distanceText days ++ ", which is outside the supported date range"
  | weekday wanted => "must fall on " ++ wanted.name ++ ", got " ++ t.weekday.name
  | dayOfMonth wanted => s!"day of month must be {wanted}, got {t.date.day}"
  | month wanted => s!"month must be {monthName wanted}, got {t.date.month}"
  | year wanted => s!"year must be {wanted}, got {t.date.year}"

/-- What was expected. -/
def expected (c : DateConstraint) (today : Int) : String :=
  match c with
  | before bound => "date before " ++ bound.text
  | after bound => "date after " ++ bound.text
  | distance days =>
    if Instant.isSupported (today + days) then (CalendarDate.ofDayNumber (today + days)).text
    else distanceText days
  | weekday wanted => wanted.name
  | dayOfMonth wanted => toString wanted
  | month wanted => monthName wanted
  | year wanted => toString wanted

/-- The issue of a date that fails the constraint. -/
def issue? (c : DateConstraint) (today : Int) (t : Instant) (path : Path) : Option Issue :=
  if c.holds today t then none
  else some ((Issue.refinement path c.code (c.message today t) (.string t.text)).expecting
    (c.expected today))

end DateConstraint

namespace DateRule

/-! ## Building -/

/-- Shifts every date. -/
def add (r : DateRule) (offset : DateOffset) : DateRule := { r with offset := some offset }

def before (r : DateRule) (bound : Instant) : DateRule := { r with earlierThan := some bound }

def after (r : DateRule) (bound : Instant) : DateRule := { r with laterThan := some bound }

/-- Requires a date strictly between two others, in either order. -/
def between (r : DateRule) (a b : Instant) : DateRule :=
  if a.before b then (r.after a).before b else (r.after b).before a

/-- Requires the day at a distance from the current one. -/
def onDayFromToday (r : DateRule) (days : Int) : DateRule := { r with daysFromToday := some days }

def daysAhead (r : DateRule) (days : Int) : DateRule := r.onDayFromToday days

/-- Requires the day at a distance before the current one. -/
def daysAgo (r : DateRule) (days : Int) : DateRule := r.onDayFromToday (clampInt64 (-days))

def onToday (r : DateRule) : DateRule := r.onDayFromToday 0

def onWeekday (r : DateRule) (weekday : Weekday) : DateRule := { r with weekday := some weekday }

def onDayOfMonth (r : DateRule) (day : Nat) : DateRule := { r with dayOfMonth := some day }

def inMonth (r : DateRule) (month : Nat) : DateRule := { r with month := some month }

def inYear (r : DateRule) (year : Int) : DateRule := { r with year := some year }

/-! ## Reading -/

/-- The instant that an input stands for. -/
def read? (strict : Bool) (value : Value) : Option Instant :=
  match value, strict with
  | .string s, true => Instant.ofTimestamp? s
  | .string s, false => (Instant.ofTimestamp? s).or (Instant.ofDate? s)
  | .number n, false => n.toInt64?.bind Instant.ofMillis?
  | _, _ => none

/-! ## Checking -/

/-- The constraints stated, in the order of checking. -/
def constraints (r : DateRule) : List DateConstraint :=
  [r.earlierThan.map .before, r.laterThan.map .after, r.daysFromToday.map .distance,
    r.weekday.map .weekday, r.dayOfMonth.map .dayOfMonth, r.month.map .month,
    r.year.map .year].filterMap id

/-- The issue of the first constraint that fails. -/
def firstIssue (r : DateRule) (today : Int) (t : Instant) (path : Path) : Option Issue :=
  r.constraints.findSome? fun constraint => constraint.issue? today t path

/-- The instant after the offset, if it is supported. -/
def shifted? (r : DateRule) (t : Instant) : Option Instant :=
  match r.offset with
  | some offset => t.shift? offset.shift
  | none => some t

/-- Reads, shifts and checks a date. -/
def check (r : DateRule) (today : Int) (strict : Bool) (value : Value) (path : Path) :
    Checked Instant :=
  match read? strict value with
  | none => Checked.fail (.typeMismatch path "date" value)
  | some t =>
    match r.shifted? t with
    | none => Checked.fail <|
        .refinement path "date_out_of_range" "date offset moves the value out of range" value
    | some t =>
      match r.firstIssue today t path with
      | some issue => Checked.fail issue
      | none => .ok t

end DateRule

end Conform
