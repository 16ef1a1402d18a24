import Conform.Decimal
/-!
# Shortest — the fewest digits that read back

Among the decimals that round to a given double, `shortest` picks one with
the fewest digits and, of those, the closest. It tries one digit, two,
and so on: on the grid of that many digits only the two neighbours of the
double can be the closest, and `readsBack` asks the rounding function
itself whether a neighbour denotes the double. Where both neighbours read
back and are equally close, a `Tie` decides.
-/


namespace Conform

namespace Decimal

/-- Which of two equally close decimals is taken. -/
inductive Tie where
  | even
  | away
deriving DecidableEq, Repr

/-- The decimal rounds to the finite double with this magnitude. -/
def readsBack (units : Nat) (d : Decimal) : Bool :=
  Binary64.nearest d.ratio.1 d.ratio.2 = units

/-- A magnitude counted in steps of `10 ^ exponent`, as an exact quotient. -/
def steps (units : Nat) (exponent : Int) : Nat × Nat :=
  (units * Nat.pow 10 (-exponent).toNat, Binary64.one * Nat.pow 10 exponent.toNat)

/-- The closest decimal on the grid of `10 ^ exponent` that reads back. -/
def onGrid (tie : Tie) (units : Nat) (exponent : Int) : Option Decimal :=
  let (num, den) := steps units exponent
  let low := num / den
  let below : Decimal := ⟨low, exponent⟩
  let above : Decimal := ⟨low + 1, exponent⟩
  let middle := (2 * low + 1) * den
  let takeBelow :=
    if 2 * num < middle then true
    else if middle < 2 * num then false
    else tie = .even && low % 2 = 0
  if readsBack units below && (takeBelow || !readsBack units above) then some below
  else if readsBack units above then some above
  else none

/-- The exponent of the leading digit of a positive magnitude. The binary
logarithm gives it up to one, and comparing with the powers of ten
corrects that. -/
def leading (units : Nat) : Int :=
  let guess := (((units.log2 : Int) - 1074) * 30103).fdiv 100000
  let atLeast (e : Int) : Bool := let (num, den) := steps units e; den ≤ num
  if atLeast (guess + 1) then guess + 1
  else if atLeast guess then guess
  else guess - 1

/-- The fewest digits that read back as the positive magnitude, the closest
of those. Seventeen digits suffice for a double. The exact expansion
stands behind them. -/
def shortest (tie : Tie) (units : Nat) : Decimal :=
  let lead := leading units
  let tried := (List.range 17).findSome? fun (n : Nat) => onGrid tie units (lead - n)
  (tried.map (dropZeros 17)).getD ⟨units * Nat.pow 5 1074, -1074⟩

end Decimal

end Conform
