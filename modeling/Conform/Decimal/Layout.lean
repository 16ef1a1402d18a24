import Conform.Decimal.Shortest
/-!
# Layout — how the digits of a number are written

Two written forms share the shortest digits. `Binary64.plain` is the form
that stands in messages: always positional, an integral number without a
point. `Binary64.compact` is the form of a number inside a written value:
positional with a fraction while the exponent of the leading digit is from
-5 to 15, and scientific with a signed exponent otherwise.
-/


namespace Conform

namespace Decimal

/-- The digits of the significand. -/
def figures (d : Decimal) : List Char := Nat.toDigits 10 d.digits

/-- Positional text. A decimal without fractional digits ends in `whole`. -/
def positional (whole : String) (d : Decimal) : String :=
  let figures := d.figures
  if 0 ≤ d.exponent then
    String.ofList (figures ++ List.replicate d.exponent.toNat '0') ++ whole
  else
    let places := (-d.exponent).toNat
    if places < figures.length then
      let point := figures.length - places
      String.ofList (figures.take point) ++ "." ++ String.ofList (figures.drop point)
    else
      "0." ++ String.ofList (List.replicate (places - figures.length) '0' ++ figures)

/-- The first digit, the others behind a point, and a signed exponent. -/
def scientific (d : Decimal) : String :=
  let figures := d.figures
  let power := d.top - 1
  let mantissa := match figures with
    | [] => ""
    | [c] => c.toString
    | c :: rest => c.toString ++ "." ++ String.ofList rest
  let sign := if power < 0 then "-" else "+"
  mantissa ++ "e" ++ sign ++ toString power.natAbs

end Decimal

namespace Binary64

/-- The sign of a negative number, the negative zero included. -/
def signText (negative : Bool) : String := if negative then "-" else ""

/-- The text of a number in a message: positional, an integral number without
a point. A tie between two shortest digit strings goes away from zero. -/
def plain : Binary64 → String
  | nan => "NaN"
  | infinite negative => signText negative ++ "inf"
  | finite negative units =>
    signText negative ++
      if units = 0 then "0" else (Decimal.shortest .away units).positional ""

/-- The text of a finite number in a written value: it always has a fraction
or an exponent, so it reads back as a double and not as an integer. A tie
between two shortest digit strings goes to the even one. What is not
finite is written as `null`. -/
def compact : Binary64 → String
  | nan => "null"
  | infinite _ => "null"
  | finite negative units =>
    signText negative ++
      if units = 0 then "0.0" else
        let d := Decimal.shortest .even units
        if -5 ≤ d.top - 1 ∧ d.top - 1 ≤ 15 then d.positional ".0" else d.scientific

end Binary64

end Conform
