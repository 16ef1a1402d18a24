import Conform.Calendar
/-!
# Instant — points in time

An instant is a number of seconds since 1970-01-01, in UTC, and nanoseconds
after that second. The last second of a minute can be a leap second: the
nanoseconds then run on from 10⁹ to 2·10⁹. Instants are ordered by seconds
first, so a leap second lies between its minute and the next.

Only the years from -262143 to 262142 are supported, and `shift` fails
when it would leave them.
-/


namespace Conform

/-- A point in time. -/
structure Instant where
  seconds : Int
  /-- From 10⁹ on these are in the leap second after `seconds`. -/
  nanos : Nat
deriving DecidableEq, Repr, Inhabited

namespace Instant

/-- The nanoseconds of a second. -/
def nanosPerSecond : Nat := 1000000000

/-! ## Range and order -/

/-- The first supported day. -/
def firstDay : Int := (CalendarDate.mk (-262143) 1 1).dayNumber

/-- The last supported day. -/
def lastDay : Int := (CalendarDate.mk 262142 12 31).dayNumber

/-- A day number in the supported range. -/
def isSupported (day : Int) : Bool := firstDay ≤ day && day ≤ lastDay

/-- The day number in UTC. -/
def day (t : Instant) : Int := t.seconds / 86400

/-- The seconds since midnight. -/
def secondOfDay (t : Instant) : Int := t.seconds % 86400

def date (t : Instant) : CalendarDate := .ofDayNumber t.day

def weekday (t : Instant) : Weekday := .ofDayNumber t.day

/-- Strictly earlier. -/
def before (a b : Instant) : Bool :=
  a.seconds < b.seconds || (a.seconds = b.seconds && a.nanos < b.nanos)

/-- Midnight of a day. -/
def ofDay (day : Int) : Instant := ⟨day * 86400, 0⟩

/-- The instant that many milliseconds after 1970-01-01, if it is supported. -/
def ofMillis? (millis : Int) : Option Instant :=
  let t : Instant := ⟨millis / 1000, (millis % 1000).toNat * 1000000⟩
  if isSupported t.day then some t else none

/-! ## Shifting -/

/-- The instant `millis` milliseconds later. A shift that stays inside a leap
second keeps it; any other shift from a leap second first goes to the end
of that second. None if the result is not supported. -/
def shift? (t : Instant) (millis : Int) : Option Instant :=
  let whole := millis.tdiv 1000
  let part := millis.tmod 1000 * 1000000
  let nanos : Int := t.nanos
  let second : Int := nanosPerSecond
  let stays := t.nanos ≥ nanosPerSecond && whole = 0 && !(0 < part && 2 * second - part ≤ nanos)
  let result : Instant :=
    if stays then ⟨t.seconds, (nanos + part).toNat⟩
    else
      let (seconds, nanos) :=
        if t.nanos < nanosPerSecond then (t.seconds, nanos)
        else if whole < 0 then (t.seconds + 1, nanos - second)
        else (t.seconds, nanos - second)
      let seconds := seconds + whole
      let nanos := nanos + part
      if nanos < 0 then ⟨seconds - 1, (nanos + second).toNat⟩
      else if second ≤ nanos then ⟨seconds + 1, (nanos - second).toNat⟩
      else ⟨seconds, nanos.toNat⟩
  if isSupported result.day then some result else none

/-! ## Text -/

/-- Date and time in UTC with milliseconds. A leap second is second 60. -/
def text (t : Instant) : String :=
  let time := t.secondOfDay.toNat
  let second := time % 60 + t.nanos / nanosPerSecond
  let millis := t.nanos % nanosPerSecond / 1000000
  t.date.text ++ "T" ++ CalendarDate.padded 2 (time / 3600) ++ ":" ++
    CalendarDate.padded 2 (time / 60 % 60) ++ ":" ++ CalendarDate.padded 2 second ++ "." ++
    CalendarDate.padded 3 millis ++ "Z"

end Instant

end Conform
