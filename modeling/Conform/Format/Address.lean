import Conform.Decimal.Reader
import Conform.Format.Identifier
/-!
# Address — internet addresses

An address of version 4 has four decimal numbers below 256, without
leading zeros. An address of version 6 has eight groups of up to four
hexadecimal digits; the last two groups may be written as a version 4
address, and one run of zero groups may be left out between two colons.

The readers yield what follows the address.
-/


namespace Conform

namespace Format

/-- Reads a number below 256 without a leading zero. -/
def octet? (text : List Char) : Option (List Char) :=
  let (digits, rest) := spanDigits text
  if digits.isEmpty || 3 < digits.length then none
  else if digits.head? = some '0' && 1 < digits.length then none
  else if naturalOf digits < 256 then some rest
  else none

/-- Reads a character in front of something. -/
def behind (c : Char) (read : List Char → Option (List Char)) : List Char → Option (List Char)
  | d :: rest => if c = d then read rest else none
  | [] => none

/-- Reads an address of version 4. -/
def version4? (text : List Char) : Option (List Char) := do
  let rest ← octet? text
  let rest ← behind '.' octet? rest
  let rest ← behind '.' octet? rest
  behind '.' octet? rest

/-- Reads a group of an address of version 6. -/
def hexGroup? (text : List Char) : Option (List Char) :=
  let digits := text.takeWhile isHexDigit
  if digits.isEmpty || 4 < digits.length then none else some (text.drop digits.length)

/-- Reads groups with colons between them, at most `free` more after the
`count` already read. Yields how many there are, whether a version 4 address
ended them, and the rest. -/
def groups : Nat → Nat → List Char → Nat × Bool × List Char
  | 0, count, text => (count, false, text)
  | free + 1, count, text =>
    let next (read : List Char → Option (List Char)) : Option (List Char) :=
      if count = 0 then read text else behind ':' read text
    match if 0 < free then next version4? else none with
    | some rest => (count + 2, true, rest)
    | none =>
      match next hexGroup? with
      | some rest => groups free (count + 1) rest
      | none => (count, false, text)

/-- Reads an address of version 6. -/
def version6? (text : List Char) : Option (List Char) :=
  match groups 8 0 text with
  | (8, _, rest) => some rest
  | (_, true, _) => none
  | (count, false, ':' :: ':' :: rest) =>
    let (_, _, rest) := groups (7 - count) 0 rest
    some rest
  | _ => none

/-- An address of either version that takes up the whole text. -/
def isAddress (text : List Char) : Bool :=
  match version4? text with
  | some rest => rest.isEmpty
  | none =>
    match version6? text with
    | some rest => rest.isEmpty
    | none => false

end Format

end Conform
