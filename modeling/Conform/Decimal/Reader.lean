import Conform.Decimal
/-!
# Reader — numbers written in decimal

`Numeral.read` reads an unsigned numeral: digits, at most one point, and an
optional exponent, with a digit somewhere in front of the exponent.
`Binary64.ofText?` adds an optional sign and the words for infinity and
for what is not a number, in any letter case.
-/


namespace Conform

/-- The value of a digit character. -/
def digitValue (c : Char) : Nat := c.toNat - '0'.toNat

/-- An ASCII decimal digit. -/
def isAsciiDigit (c : Char) : Bool := '0' ≤ c && c ≤ '9'

/-- The natural number written by a run of digits. -/
def naturalOf (digits : List Char) : Nat :=
  digits.foldl (fun n c => n * 10 + digitValue c) 0

/-- The digits at the start of a text, and the rest. -/
def spanDigits (text : List Char) : List Char × List Char :=
  (text.takeWhile isAsciiDigit, text.dropWhile isAsciiDigit)

/-- A sign at the start of a text: whether it is a minus, and the rest. -/
def spanSign : List Char → Bool × List Char
  | '-' :: rest => (true, rest)
  | '+' :: rest => (false, rest)
  | rest => (false, rest)

namespace Numeral

/-- The exponent part of a numeral: nothing, or a mark, an optional sign and
at least one digit up to the end. -/
def exponent? : List Char → Option Int
  | [] => some 0
  | mark :: rest =>
    if mark = 'e' ∨ mark = 'E' then
      let (negative, rest) := spanSign rest
      let (digits, rest) := spanDigits rest
      if digits.isEmpty || !rest.isEmpty then none
      else
        let n : Int := naturalOf digits
        some (if negative then -n else n)
    else none

/-- An unsigned numeral that takes up the whole text. -/
def read (text : List Char) : Option Decimal :=
  let (whole, rest) := spanDigits text
  let (fraction, rest) := match rest with
    | '.' :: rest => spanDigits rest
    | _ => ([], rest)
  if whole.isEmpty && fraction.isEmpty then none
  else (exponent? rest).map fun e =>
    ⟨naturalOf (whole ++ fraction), e - fraction.length⟩

end Numeral

namespace Binary64

/-- The number that a text denotes, if it is a signed numeral, `inf`,
`infinity` or `nan`. -/
def ofText? (text : String) : Option Binary64 :=
  let (negative, rest) := spanSign text.toList
  match (String.ofList rest).toLower with
  | "inf" => some (infinite negative)
  | "infinity" => some (infinite negative)
  | "nan" => some nan
  | _ => (Numeral.read rest).map (·.toBinary64 negative)

end Binary64

end Conform
