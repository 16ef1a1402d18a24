import Conform.Binary64
/-!
# Decimal — decimals and the doubles they denote

A `Decimal` is `digits * 10 ^ exponent`. `toBinary64` rounds it once to
the closest double, and `ratio` gives its exact magnitude in units as a
quotient of naturals.
-/


namespace Conform

/-- The decimal `digits * 10 ^ exponent`. -/
structure Decimal where
  digits : Nat
  exponent : Int
deriving DecidableEq, Repr

namespace Decimal

/-- The exact magnitude in units, as numerator and denominator. -/
def ratio (d : Decimal) : Nat × Nat :=
  (d.digits * Nat.pow 10 d.exponent.toNat * Binary64.one, Nat.pow 10 (-d.exponent).toNat)

/-- The exponent just past the leading digit: the decimal is below
`10 ^ top` and, unless zero, at least a tenth of it. -/
def top (d : Decimal) : Int := (Nat.toDigits 10 d.digits).length + d.exponent

/-- The closest double. Decimals from `10 ^ 400` on are infinite and those
below `10 ^ (-400)` are zero, so their powers of ten are not computed. -/
def toBinary64 (negative : Bool) (d : Decimal) : Binary64 :=
  if d.digits = 0 ∨ d.top < -400 then .finite negative 0
  else if 401 < d.top then .infinite negative
  else Binary64.ofUnits negative d.ratio.1 d.ratio.2

/-- The same decimal without trailing zero digits, up to `count` of them. -/
def dropZeros : Nat → Decimal → Decimal
  | 0, d => d
  | count + 1, d =>
    if d.digits % 10 = 0 then dropZeros count ⟨d.digits / 10, d.exponent + 1⟩ else d

end Decimal

end Conform
