import Conform.Instant
import Mathlib.Algebra.Order.Ring.Nat
/-!
# Calendar — day numbers and dates are the same days

The date of a day number is a day of the calendar, and its day number is the
one it was made of.
-/


namespace Conform

namespace CalendarDate

section Cycles

variable {q c f y : Int}

end Cycles

end CalendarDate

end Conform
