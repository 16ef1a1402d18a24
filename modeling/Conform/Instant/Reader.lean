import Conform.Instant
import Conform.Decimal.Reader
import Conform.Unicode.WhiteSpace
/-!
# Reader — timestamps and plain dates

`Instant.ofTimestamp?` reads a date and time with an offset, as in
`2024-02-29T12:00:00.5+01:00`: four digits for the year and two for each
other part, any number of fractional digits of which nine count, and `Z`
or an offset below a day. `t`, `z` and a blank instead of the `T` are
allowed.

`Instant.ofDate?` reads a plain date. A number in it may follow blanks; a
year without a sign has at most four digits, a month and a day at most
two.
-/


namespace Conform

namespace Instant

/-- Reads a given character. -/
def expect (c : Char) : List Char → Option (List Char)
  | d :: rest => if c = d then some rest else none
  | [] => none

/-- Reads exactly `count` digits. -/
def fixedNumber (count : Nat) (text : List Char) : Option (Nat × List Char) :=
  let digits := text.take count
  if digits.length = count && digits.all isAsciiDigit then some (naturalOf digits, text.drop count)
  else none

/-- Reads one to `most` digits. -/
def shortNumber (most : Nat) (text : List Char) : Option (Nat × List Char) :=
  let digits := (text.take most).takeWhile isAsciiDigit
  if digits.isEmpty then none else some (naturalOf digits, text.drop digits.length)

/-- The date of a year, month and day, if there is one and it is supported. -/
def checkedDate (year : Int) (month day : Nat) : Option CalendarDate :=
  let date : CalendarDate := ⟨year, month, day⟩
  if date.isValid && isSupported date.dayNumber then some date else none

/-! ## Timestamps -/

/-- The nanoseconds of a fraction: nine digits count, the others are dropped. -/
def fractionOf (digits : List Char) : Nat :=
  let counted := digits.take 9
  naturalOf counted * Nat.pow 10 (9 - counted.length)

/-- Reads an optional fraction of a second, in nanoseconds. -/
def readFraction (text : List Char) : Option (Nat × List Char) :=
  match text with
  | '.' :: rest =>
    let (digits, rest) := spanDigits rest
    if digits.isEmpty then none else some (fractionOf digits, rest)
  | rest => some (0, rest)

/-- Reads an offset from UTC, in seconds. -/
def readOffset (text : List Char) : Option (Int × List Char) :=
  match text with
  | 'Z' :: rest => some (0, rest)
  | 'z' :: rest => some (0, rest)
  | c :: rest =>
    if c = '+' ∨ c = '-' ∨ c = '−' then do
      let (hours, rest) ← fixedNumber 2 rest
      let rest ← expect ':' rest
      let (minutes, rest) ← fixedNumber 2 rest
      if hours < 24 ∧ minutes < 60 then
        let offset : Int := hours * 3600 + minutes * 60
        return (if c = '+' then offset else -offset, rest)
      else none
    else none
  | [] => none

/-- The character between date and time. -/
def readSeparator : List Char → Option (List Char)
  | c :: rest => if c = 'T' ∨ c = 't' ∨ c = ' ' then some rest else none
  | [] => none

/-- The instant of a timestamp. Second 60 is the leap second after second 59. -/
def ofTimestamp? (text : String) : Option Instant := do
  let (year, rest) ← fixedNumber 4 text.toList
  let rest ← expect '-' rest
  let (month, rest) ← fixedNumber 2 rest
  let rest ← expect '-' rest
  let (day, rest) ← fixedNumber 2 rest
  let rest ← readSeparator rest
  let (hour, rest) ← fixedNumber 2 rest
  let rest ← expect ':' rest
  let (minute, rest) ← fixedNumber 2 rest
  let rest ← expect ':' rest
  let (second, rest) ← fixedNumber 2 rest
  let (nanos, rest) ← readFraction rest
  let (offset, rest) ← readOffset rest
  let date ← checkedDate year month day
  if hour < 24 ∧ minute < 60 ∧ second ≤ 60 ∧ rest = [] then
    let leap := second / 60
    let time : Int := hour * 3600 + minute * 60 + (second - leap : Nat)
    return ⟨date.dayNumber * 86400 + time - offset, nanos + leap * nanosPerSecond⟩
  else none

/-! ## Plain dates -/

/-- The text after blanks. -/
def skipBlank (text : List Char) : List Char := Unicode.trimStart text

/-- Reads a year: with a sign any number of digits, without one at most four. -/
def readYear (text : List Char) : Option (Int × List Char) :=
  match skipBlank text with
  | '-' :: rest => (shortNumber rest.length rest).map fun (n, rest) => (-(n : Int), rest)
  | '+' :: rest => (shortNumber rest.length rest).map fun (n, rest) => ((n : Int), rest)
  | rest => (shortNumber 4 rest).map fun (n, rest) => ((n : Int), rest)

/-- Midnight of a plain date. -/
def ofDate? (text : String) : Option Instant := do
  let (year, rest) ← readYear text.toList
  let rest ← expect '-' rest
  let (month, rest) ← shortNumber 2 (skipBlank rest)
  let rest ← expect '-' rest
  let (day, rest) ← shortNumber 2 (skipBlank rest)
  let date ← checkedDate year month day
  if rest = [] then return ofDay date.dayNumber else none

end Instant

end Conform
