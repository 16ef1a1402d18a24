/-!
# Binary64 — double-precision numbers, exactly

A finite double is a sign and a whole number of units, where one unit is
the least positive double, `2 ^ (-1074)`. Every finite double is such a
multiple, so comparing, truncating and taking remainders are operations
on `Nat`. The other operations compute the exact ratio of two naturals
and round it once, with `nearest`: to the closest double, ties to the
even neighbour, and to infinity from `2 ^ 1024` on.

`ofUnits` is the one place where rounding happens. `Representable` says
which magnitudes are doubles.
-/


namespace Conform

/-- A double: finite with a sign and a magnitude in units of `2 ^ (-1074)`,
infinite, or not a number. -/
inductive Binary64 where
  | finite (negative : Bool) (units : Nat)
  | infinite (negative : Bool)
  | nan
deriving DecidableEq, Repr, Inhabited

namespace Binary64

/-! ## Rounding -/

/-- The number of units in the number one. -/
def one : Nat := Nat.pow 2 1074

/-- The number of units in `2 ^ 1024`, the first magnitude past the finite ones. -/
def beyond : Nat := Nat.pow 2 2098

/-- The distance between neighbouring doubles at a magnitude: one unit up
to 53 significant bits, and a power of two above. -/
def spacing (units : Nat) : Nat := Nat.pow 2 (units.log2 - 52)

/-- The multiple of `step` closest to `num / den`, the even multiple when two
are equally close. -/
def closestMultiple (num den step : Nat) : Nat :=
  let whole := step * den
  let q := num / whole
  let r := num % whole
  if 2 * r < whole then q * step
  else if whole < 2 * r then (q + 1) * step
  else if q % 2 = 0 then q * step
  else (q + 1) * step

/-- The magnitude closest to `num / den` units, with an unbounded exponent. -/
def nearest (num den : Nat) : Nat := closestMultiple num den (spacing (num / den))

/-- A magnitude that a finite double has: it is below `2 ^ 1024` and has at
most 53 significant bits. -/
def Representable (units : Nat) : Prop :=
  units < beyond ∧ spacing units ∣ units

instance (units : Nat) : Decidable (Representable units) :=
  inferInstanceAs (Decidable (_ ∧ _))

/-- The double closest to `num / den` units, with the given sign. -/
def ofUnits (negative : Bool) (num den : Nat) : Binary64 :=
  let units := nearest num den
  if units < beyond then finite negative units else infinite negative

/-- The double closest to an integer. -/
def ofInt (n : Int) : Binary64 := ofUnits (n < 0) (n.natAbs * one) 1

def zero : Binary64 := finite false 0

/-! ## Order

`order` places every double that is a number on the integers: a finite one
at its signed count of units, the infinities just past all of them. The
two zeros share a place. -/

/-- The place of a number in the order of the doubles. -/
def order : Binary64 → Option Int
  | finite negative units => some (if negative then -(units : Int) else units)
  | infinite negative => some (if negative then -(beyond : Int) else beyond)
  | nan => none

/-- Strictly less; false when either side is not a number. -/
def lt (a b : Binary64) : Bool :=
  match a.order, b.order with
  | some x, some y => x < y
  | _, _ => false

/-- At most; false when either side is not a number. -/
def le (a b : Binary64) : Bool :=
  match a.order, b.order with
  | some x, some y => x ≤ y
  | _, _ => false

/-- Numeric equality: the two zeros are equal and nothing equals `nan`. -/
def same (a b : Binary64) : Bool :=
  match a.order, b.order with
  | some x, some y => x = y
  | _, _ => false

def isNaN : Binary64 → Bool
  | nan => true
  | _ => false

def isFinite : Binary64 → Bool
  | finite .. => true
  | _ => false

/-- A finite number without a fractional part. -/
def isIntegral : Binary64 → Bool
  | finite _ units => units % one = 0
  | _ => false

/-- The integer that an integral number is, toward zero for any other. -/
def truncate : Binary64 → Int
  | finite negative units =>
    let n : Int := units / one
    if negative then -n else n
  | _ => 0

/-! ## Arithmetic -/

def neg : Binary64 → Binary64
  | finite negative units => finite (!negative) units
  | infinite negative => infinite (!negative)
  | nan => nan

def abs : Binary64 → Binary64
  | finite _ units => finite false units
  | infinite _ => infinite false
  | nan => nan

/-- The sum, rounded once. A sum of opposite numbers is the positive zero. -/
def add : Binary64 → Binary64 → Binary64
  | nan, _ => nan
  | _, nan => nan
  | infinite a, infinite b => if a = b then infinite a else nan
  | infinite a, finite .. => infinite a
  | finite .., infinite b => infinite b
  | finite a m, finite b n =>
    if a = b then ofUnits a (m + n) 1
    else if m = n then zero
    else if n < m then ofUnits a (m - n) 1
    else ofUnits b (n - m) 1

def sub (a b : Binary64) : Binary64 := a.add b.neg

/-- The product, rounded once. -/
def mul : Binary64 → Binary64 → Binary64
  | nan, _ => nan
  | _, nan => nan
  | infinite a, infinite b => infinite (a != b)
  | infinite a, finite b n => if n = 0 then nan else infinite (a != b)
  | finite a m, infinite b => if m = 0 then nan else infinite (a != b)
  | finite a m, finite b n => ofUnits (a != b) (m * n) one

/-- The remainder of division toward zero, which is exact and has the sign
of the dividend. -/
def rem : Binary64 → Binary64 → Binary64
  | finite a m, finite _ n => if n = 0 then nan else finite a (m % n)
  | finite a m, infinite _ => finite a m
  | _, _ => nan

/-- The greatest integral number at most this one. -/
def floor : Binary64 → Binary64
  | finite negative units =>
    let q := units / one
    if negative && units % one != 0 then finite true ((q + 1) * one)
    else finite negative (q * one)
  | x => x

/-- The least integral number at least this one. -/
def ceil : Binary64 → Binary64
  | finite negative units =>
    let q := units / one
    if !negative && units % one != 0 then finite false ((q + 1) * one)
    else finite negative (q * one)
  | x => x

/-- The closest integral number, halves away from zero. -/
def round : Binary64 → Binary64
  | finite negative units => finite negative ((2 * units + one) / (2 * one) * one)
  | x => x

/-- The greater of two numbers, and the second of two equal ones, which matters
for the zeros; of a number and `nan`, the number. -/
def max (a b : Binary64) : Binary64 :=
  if a.isNaN then b else if b.isNaN then a else if b.lt a then a else b

/-- The lesser of two numbers, and the second of two equal ones, which matters
for the zeros; of a number and `nan`, the number. -/
def min (a b : Binary64) : Binary64 :=
  if a.isNaN then b else if b.isNaN then a else if a.lt b then a else b

end Binary64

end Conform
