import Conform.Value.Text
import Conform.Decimal.Reader
/-!
# Reader — values from their written form

`Value.ofText?` reads one value that takes up a whole text. A numeral with
neither point nor exponent that fits 64 bits, signed or unsigned, is an
integer; every other numeral is the closest double, and so is `-0`. A
repeated key keeps its first place and its last value.

The reader recurses on a bound on the nesting and length of what it reads,
which the length of the text supplies.
-/


namespace Conform

namespace Value

/-- The blanks between tokens. -/
def isBlank (c : Char) : Bool := c = ' ' || c = '\n' || c = '\t' || c = '\r'

def skipBlanks (text : List Char) : List Char := text.dropWhile isBlank

/-! ## Strings -/

/-- The value of a hexadecimal digit. -/
def hexValue? (c : Char) : Option Nat :=
  if '0' ≤ c ∧ c ≤ '9' then some (c.toNat - '0'.toNat)
  else if 'a' ≤ c ∧ c ≤ 'f' then some (c.toNat - 'a'.toNat + 10)
  else if 'A' ≤ c ∧ c ≤ 'F' then some (c.toNat - 'A'.toNat + 10)
  else none

/-- The 16-bit unit of a four-digit escape. -/
def unit? (a b c d : Char) : Option Nat := do
  return ((← hexValue? a) * 16 + (← hexValue? b)) * 256 + (← hexValue? c) * 16 + (← hexValue? d)

/-- The character of an escape of one letter. -/
def unescape? (c : Char) : Option Char :=
  match c with
  | '\x22' => some '\x22'
  | '\\' => some '\\'
  | '/' => some '/'
  | 'b' => some '\x08'
  | 'f' => some '\x0c'
  | 'n' => some '\n'
  | 'r' => some '\r'
  | 't' => some '\t'
  | _ => none

/-- The rest of a string after its opening quote. Two escapes that form a
surrogate pair are one character. -/
def readString : List Char → Option (List Char × List Char)
  | '\x22' :: rest => some ([], rest)
  | '\\' :: 'u' :: a :: b :: c :: d :: '\\' :: 'u' :: e :: f :: g :: h :: rest => do
    let high ← unit? a b c d
    if 0xD800 ≤ high ∧ high < 0xDC00 then
      let low ← unit? e f g h
      if 0xDC00 ≤ low ∧ low < 0xE000 then
        let (text, rest) ← readString rest
        return (Char.ofNat (0x10000 + (high - 0xD800) * 0x400 + (low - 0xDC00)) :: text, rest)
      else none
    else
      let (text, rest) ← readString ('\\' :: 'u' :: e :: f :: g :: h :: rest)
      return (Char.ofNat high :: text, rest)
  | '\\' :: 'u' :: a :: b :: c :: d :: rest => do
    let code ← unit? a b c d
    if 0xD800 ≤ code ∧ code < 0xE000 then none
    else
      let (text, rest) ← readString rest
      return (Char.ofNat code :: text, rest)
  | '\\' :: c :: rest => do
    let char ← unescape? c
    let (text, rest) ← readString rest
    return (char :: text, rest)
  | c :: rest =>
    if c = '\\' then none
    else do
      let (text, rest) ← readString rest
      return (c :: text, rest)
  | [] => none
termination_by text => text.length

/-! ## Numbers -/

/-- A character that can stand in a number. -/
def isNumeralChar (c : Char) : Bool :=
  isAsciiDigit c || c = '.' || c = 'e' || c = 'E' || c = '+' || c = '-'

/-- The number that a numeral denotes, without its minus sign. -/
def numberOf? (negative : Bool) (numeral : List Char) : Option Number :=
  let n : Int := naturalOf numeral
  if numeral.all isAsciiDigit then
    if numeral.isEmpty then none
    else if negative && n != 0 && n ≤ -Number.leastInteger then some (.integer (-n))
    else if !negative && n ≤ Number.greatestInteger then some (.integer n)
    else some (.double (Decimal.toBinary64 negative ⟨naturalOf numeral, 0⟩))
  else (Numeral.read numeral).map fun d => .double (d.toBinary64 negative)

/-! ## Values -/

mutual

/-- Reads a value after blanks. -/
def read : Nat → List Char → Option (Value × List Char)
  | 0, _ => none
  | fuel + 1, text =>
    match skipBlanks text with
    | 'n' :: 'u' :: 'l' :: 'l' :: rest => some (null, rest)
    | 't' :: 'r' :: 'u' :: 'e' :: rest => some (boolean true, rest)
    | 'f' :: 'a' :: 'l' :: 's' :: 'e' :: rest => some (boolean false, rest)
    | '\x22' :: rest => (readString rest).map fun (s, rest) => (string (String.ofList s), rest)
    | '[' :: rest =>
      match skipBlanks rest with
      | ']' :: rest => some (array [], rest)
      | rest => (readItems fuel rest).map fun (items, rest) => (array items, rest)
    | '\x7b' :: rest =>
      match skipBlanks rest with
      | '\x7d' :: rest => some (object [], rest)
      | rest => (readMembers fuel [] rest).map fun (members, rest) => (object members, rest)
    | '-' :: rest =>
      (numberOf? true (rest.takeWhile isNumeralChar)).map fun n =>
        (number n, rest.dropWhile isNumeralChar)
    | rest =>
      (numberOf? false (rest.takeWhile isNumeralChar)).map fun n =>
        (number n, rest.dropWhile isNumeralChar)

/-- Reads the items of an array up to its closing bracket. -/
def readItems : Nat → List Char → Option (List Value × List Char)
  | 0, _ => none
  | fuel + 1, text => do
    let (item, rest) ← read fuel text
    match skipBlanks rest with
    | ',' :: rest =>
      let (items, rest) ← readItems fuel rest
      return (item :: items, rest)
    | ']' :: rest => return ([item], rest)
    | _ => none

/-- Reads the members of an object up to its closing brace, after those
already read. -/
def readMembers : Nat → Members → List Char → Option (Members × List Char)
  | 0, _, _ => none
  | fuel + 1, before, text =>
    match skipBlanks text with
    | '\x22' :: rest => do
      let (key, rest) ← readString rest
      match skipBlanks rest with
      | ':' :: rest =>
        let (value, rest) ← read fuel rest
        let members := Members.put before (String.ofList key) value
        match skipBlanks rest with
        | ',' :: rest => readMembers fuel members rest
        | '\x7d' :: rest => return (members, rest)
        | _ => none
      | _ => none
    | _ => none

end

/-- The value that a text denotes. -/
def ofText? (text : String) : Option Value :=
  match read (text.length + 1) text.toList with
  | some (value, rest) => if (skipBlanks rest).isEmpty then some value else none
  | none => none

end Value

end Conform
