import Conform.Pattern
import Conform.Pattern.Flags
import Conform.Unicode.Property
import Conform.Value.Reader
/-!
# Escape — what a backslash introduces

A backslash introduces a code point, a set of characters or an assertion.
Code points are written by a letter of their own or in hexadecimal, and any
character of ASCII that is no letter or digit stands for itself. `\p` and
`\P` introduce a set by the name of a property.
-/


namespace Conform.Pattern

open Unicode

/-- What an escape stands for. -/
inductive Escape where
  | code (n : Nat)
  /-- One character of a set. -/
  | oneOf (set : CodeSet)
  | assertion (statement : Assertion)

namespace Escape

/-! ## Code points -/

/-- The value of a run of hexadecimal digits. -/
def hexOf? (digits : List Char) : Option Nat :=
  if digits.isEmpty then none
  else digits.foldl (fun n c => return (← n) * 16 + (← Value.hexValue? c)) (some 0)

/-- A code point in braces, or in exactly `width` digits. -/
def hex? (flags : Flags) (width : Nat) (text : List Char) : Option (Escape × List Char) := do
  let isHex (c : Char) : Bool := (Value.hexValue? c).isSome
  let scalar? (n : Nat) : Option Nat := if n.isValidChar then some n else none
  match flags.pass text with
  | '\x7b' :: rest =>
    match flags.spanAll isHex (flags.pass rest) with
    | (digits, '\x7d' :: rest) => return (.code (← scalar? (← hexOf? digits)), flags.pass rest)
    | _ => none
  | text =>
    let (digits, rest) := flags.span isHex width text
    if digits.length < width then none
    else
      let n ← scalar? (← hexOf? digits)
      if flags.ascii && width = 2 && 0x80 ≤ n then none else return (.code n, rest)

/-! ## Sets -/

/-- The decimal digits of ASCII. -/
def asciiDigit : CodeSet := .range 0x30 0x39

/-- The blanks of ASCII. -/
def asciiSpace : CodeSet := (CodeSet.range 0x09 0x0D).union (.singleton 0x20)

/-- The characters of words of ASCII. -/
def asciiWord : CodeSet :=
  .unionOf [asciiDigit, .range 0x41 0x5A, .singleton 0x5F, .range 0x61 0x7A]

/-- A set of one letter, which is negated in upper case. -/
def letterSet? (flags : Flags) (c : Char) : Option CodeSet :=
  let choose (ascii all : CodeSet) : Option CodeSet :=
    match flags.ascii, c.isUpper with
    | true, true => none
    | true, false => some ascii
    | false, true => some all.complement
    | false, false => some all
  match c.toLower with
  | 'd' => choose asciiDigit decimalNumber
  | 's' => choose asciiSpace whiteSpace
  | 'w' => choose asciiWord word
  | _ => none

/-- The set of a property, by one letter or an expression in braces. -/
def property? (flags : Flags) (negated : Bool) (text : List Char) :
    Option (Escape × List Char) := do
  if flags.ascii then none
  let (set, rest) ← match flags.pass text with
    | '\x7b' :: rest =>
      match flags.spanAll (· != '\x7d') (flags.pass rest) with
      | (name, _ :: rest) => some (← Property.ofText? name, rest)
      | _ => none
    | c :: rest => some (← Property.ofName? [c], rest)
    | [] => none
  return (.oneOf (← flags.settle? negated set), rest)

/-! ## Assertions -/

/-- The conditions on words that have a name. -/
def wordCondition? (name : String) : Option WordCondition :=
  match name with
  | "start" => some .start
  | "end" => some .finish
  | "start-half" => some .startHalf
  | "end-half" => some .finishHalf
  | _ => none

/-- A condition on words that is named in braces, or else the boundary of a word:
braces that hold no name belong to a repetition. -/
def boundary? (flags : Flags) (text : List Char) : Option (Escape × List Char) :=
  let isNameChar (c : Char) : Bool := c.isAlpha || c = '-'
  let plain := some (assertion (.word .boundary flags.ascii), text)
  match text with
  | '\x7b' :: rest =>
    match flags.spanAll isNameChar (flags.pass rest) with
    | ([], _ :: _) => plain
    | (name, '\x7d' :: rest) =>
      (wordCondition? (String.ofList name)).map fun condition =>
        (assertion (.word condition flags.ascii), rest)
    | _ => none
  | _ => plain

/-! ## Reading -/

/-- A character of ASCII that stands for itself behind a backslash. -/
def isEscapable (c : Char) : Bool := c.toNat < 0x80 && !c.isAlphanum

/-- Reads an escape after its backslash. -/
def read? (flags : Flags) : List Char → Option (Escape × List Char)
  | [] => none
  | c :: rest =>
    let code (n : Nat) : Option (Escape × List Char) := some (.code n, rest)
    let holds (statement : Assertion) : Option (Escape × List Char) :=
      some (.assertion statement, rest)
    match c with
    | 'a' => code 0x07
    | 'f' => code 0x0C
    | 't' => code 0x09
    | 'n' => code 0x0A
    | 'r' => code 0x0D
    | 'v' => code 0x0B
    | 'x' => hex? flags 2 rest
    | 'u' => hex? flags 4 rest
    | 'U' => hex? flags 8 rest
    | 'p' => property? flags false rest
    | 'P' => property? flags true rest
    | 'A' => holds .textStart
    | 'z' => holds .textEnd
    | 'b' => boundary? flags rest
    | 'B' => holds (.word .noBoundary flags.ascii)
    | '<' => holds (.word .start flags.ascii)
    | '>' => holds (.word .finish flags.ascii)
    | c =>
      match letterSet? flags c with
      | some set => some (.oneOf set, rest)
      | none => if isEscapable c then code c.toNat else none

end Escape

end Conform.Pattern
