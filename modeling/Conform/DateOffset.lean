/-!
# DateOffset — amounts of time in several units

A `DateOffset` has a signed 64-bit number of each unit. `total` adds them
up in milliseconds. Every product and every partial sum is clamped to the
64-bit range.
-/


namespace Conform

/-- The least signed integer of 64 bits. -/
def leastInt64 : Int := -9223372036854775808

/-- The greatest signed integer of 64 bits. -/
def greatestInt64 : Int := 9223372036854775807

/-- The closest signed integer of 64 bits. -/
def clampInt64 (n : Int) : Int := max leastInt64 (min n greatestInt64)

/-- Units of time. -/
inductive TimeUnit where
  | days
  | hours
  | minutes
  | seconds
  | milliseconds
deriving DecidableEq, Repr

/-- The milliseconds of a unit. -/
def TimeUnit.millis : TimeUnit → Int
  | days => 86400000
  | hours => 3600000
  | minutes => 60000
  | seconds => 1000
  | milliseconds => 1

/-- An amount of every unit. -/
structure DateOffset where
  days : Int := 0
  hours : Int := 0
  minutes : Int := 0
  seconds : Int := 0
  milliseconds : Int := 0
deriving DecidableEq, Repr, Inhabited

namespace DateOffset

/-- Sets the amount of a unit. -/
def set (o : DateOffset) (unit : TimeUnit) (amount : Int) : DateOffset :=
  match unit with
  | .days => { o with days := amount }
  | .hours => { o with hours := amount }
  | .minutes => { o with minutes := amount }
  | .seconds => { o with seconds := amount }
  | .milliseconds => { o with milliseconds := amount }

/-- The amount of a unit. -/
def get (o : DateOffset) : TimeUnit → Int
  | .days => o.days
  | .hours => o.hours
  | .minutes => o.minutes
  | .seconds => o.seconds
  | .milliseconds => o.milliseconds

/-- An amount of a unit in milliseconds, clamped. -/
def part (o : DateOffset) (unit : TimeUnit) : Int := clampInt64 (o.get unit * unit.millis)

/-- The whole offset in milliseconds, clamped after every step. -/
def total (o : DateOffset) : Int :=
  clampInt64 (clampInt64 (clampInt64 (clampInt64 (o.part .days + o.part .hours) + o.part .minutes) +
    o.part .seconds) + o.milliseconds)

/-- The shift that the offset stands for. Its magnitude fits 63 bits. -/
def shift (o : DateOffset) : Int := max o.total (-greatestInt64)

end DateOffset

end Conform
