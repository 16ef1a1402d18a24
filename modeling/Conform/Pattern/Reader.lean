import Conform.Decimal.Reader
import Conform.Pattern.Class
import Conform.Pattern.Weight
/-!
# Reader — patterns from their written form

`Regex.ofText?` reads a pattern, and yields nothing if the text is not one.
A pattern is a choice between sequences of atoms with their repetitions.
Groups are numbered by their opening parentheses. A pattern whose form is
too deep or that weighs too much is refused.

The reader recurses on a bound that the length of the text supplies: every
level takes at least one character.
-/


namespace Conform

open Unicode

namespace Pattern

/-- What is left to read, the flags in force, and the groups opened so far. -/
structure Reading where
  rest : List Char
  flags : Flags := {}
  groups : Nat := 0
  names : List (String × Nat) := []

/-! ## Names of groups -/

/-- A name that a group can have. -/
def isGroupName (name : List Char) : Bool :=
  match name with
  | [] => false
  | c :: rest =>
    (c = '_' || isAlphabetic c) && rest.all fun c => isAlphanumeric c || "_.[]".toList.contains c

/-! ## Repetitions -/

/-- A number of times, with the blanks around it. -/
def count? (flags : Flags) (text : List Char) : Option (Nat × List Char) :=
  let text := text.dropWhile isWhiteSpace
  let (digits, rest) := flags.spanAll isAsciiDigit text
  if digits.isEmpty then none
  else
    let n := naturalOf digits
    if n < 4294967296 then some (n, rest.dropWhile isWhiteSpace) else none

/-- Reads the bounds of a counted repetition after its opening brace. -/
def bounds? (flags : Flags) (text : List Char) : Option (Nat × Option Nat × List Char) := do
  let (least, rest) ← count? flags (flags.pass text)
  match rest with
  | '\x7d' :: rest => return (least, some least, flags.pass rest)
  | ',' :: rest =>
    match flags.pass rest with
    | '\x7d' :: rest => return (least, none, flags.pass rest)
    | rest =>
      let (most, rest) ← count? flags rest
      match rest with
      | '\x7d' :: rest => if least ≤ most then return (least, some most, flags.pass rest) else none
      | _ => none
  | _ => none

/-- The bounds of a repetition, if one follows; nothing inside if a brace
opens none. -/
def repetition? (flags : Flags) : List Char → Option (Option (Nat × Option Nat × List Char))
  | '*' :: rest => some (some (0, none, rest))
  | '+' :: rest => some (some (1, none, rest))
  | '?' :: rest => some (some (0, some 1, rest))
  | '\x7b' :: rest => some (bounds? flags rest)
  | _ => none

/-- Puts the repetitions that follow around an atom. -/
def readRepetitions : Nat → Nested Pattern → Reading → Option (Nested Pattern × Reading)
  | 0, _, _ => none
  | fuel + 1, p, r =>
    match repetition? r.flags (r.flags.pass r.rest) with
    | none => some (p, r)
    | some none => none
    | some (some (least, most, rest)) =>
      let (marked, rest) := match rest with
        | '?' :: rest => (true, rest)
        | rest => (false, rest)
      let repeated := repetitionOf least most (marked == r.flags.swapGreed) p.value
      readRepetitions fuel (Nested.enclosed { p with value := repeated }) { r with rest }

/-! ## Patterns -/

/-- One character, in both its cases if they do not matter. -/
def letter (flags : Flags) (n : Nat) : Pattern := charOf (flags.fold (.singleton n))

/-- The pattern of a character that no backslash stands before. The dot has no
meaning among bytes. -/
def plain? (flags : Flags) (c : Char) : Option Pattern :=
  match c with
  | '.' =>
    if flags.ascii then none
    else
      let breaks := match flags.dotAll, flags.crlf with
        | true, _ => []
        | false, true => [0x0A, 0x0D]
        | false, false => [0x0A]
      some (charOf (CodeSet.ofList breaks).complement)
  | '^' => some (assertion (if flags.multiLine then .lineStart flags.crlf else .textStart))
  | '$' => some (assertion (if flags.multiLine then .lineEnd flags.crlf else .textEnd))
  | c => some (letter flags c.toNat)

/-- The pattern of an escape. -/
def ofEscape (flags : Flags) : Escape → Pattern
  | .code n => letter flags n
  | .oneOf set => charOf set
  | .assertion statement => assertion statement

/-- A sequence ends in front of a bar, a closing parenthesis, or the end. -/
def endsSequence : List Char → Bool
  | [] => true
  | c :: _ => c = '|' || c = ')'

mutual

/-- Reads the alternatives of a choice up to a closing parenthesis or the end,
both of which it leaves. -/
def readChoice : Nat → Reading → Option (List (Nested Pattern) × Reading)
  | 0, _ => none
  | fuel + 1, r => do
    let (first, r) ← readSequence fuel [] r
    match r.rest with
    | '|' :: rest =>
      let (others, r) ← readChoice fuel { r with rest }
      return (first :: others, r)
    | _ => return ([first], r)

/-- Reads a sequence, after the items already read in reverse. -/
def readSequence : Nat → List (Nested Pattern) → Reading → Option (Nested Pattern × Reading)
  | 0, _, _ => none
  | fuel + 1, items, r =>
    let r := { r with rest := r.flags.pass r.rest }
    if endsSequence r.rest then some (Nested.collect sequenceOf items.reverse, r)
    else do
      let (atom, r) ← readAtom fuel r
      match atom with
      | none => readSequence fuel ({ value := empty } :: items) r
      | some atom =>
        let (item, r) ← readRepetitions fuel atom r
        readSequence fuel (item :: items) r

/-- Reads an atom, or flags that hold from here on, which are no atom. -/
def readAtom : Nat → Reading → Option (Option (Nested Pattern) × Reading)
  | 0, _ => none
  | fuel + 1, r =>
    match r.rest with
    | [] => none
    | '(' :: rest =>
      match r.flags.pass rest with
      | '?' :: 'P' :: '<' :: rest => readNamed fuel r rest
      | '?' :: '<' :: rest => readNamed fuel r rest
      | '?' :: rest => do
        let (flags, seen, rest) ← r.flags.read true [] rest
        match rest with
        | ')' :: rest => if seen.isEmpty then none else return (none, { r with rest, flags })
        | _ :: rest => readGroup fuel r.flags none { r with rest, flags }
        | [] => none
      | rest =>
        let groups := r.groups + 1
        readGroup fuel r.flags (some groups) { r with rest, groups }
    | '[' :: rest => do
      let (set, rest) ← Class.read r.flags fuel rest
      return (some ⟨charOf set.value, set.depth⟩, { r with rest })
    | '\\' :: rest => do
      let (escape, rest) ← Escape.read? r.flags rest
      return (some { value := ofEscape r.flags escape }, { r with rest })
    | c :: rest => do
      if "*+?\x7b)".toList.contains c then none
      return (some { value := ← plain? r.flags c }, { r with rest })

/-- Reads a named group after the angle bracket that opens its name. -/
def readNamed : Nat → Reading → List Char → Option (Option (Nested Pattern) × Reading)
  | 0, _, _ => none
  | fuel + 1, r, text =>
    let name := text.takeWhile (· != '>')
    match text.dropWhile (· != '>') with
    | _ :: rest =>
      let key := String.ofList name
      if !isGroupName name || (r.names.lookup key).isSome then none
      else
        let groups := r.groups + 1
        readGroup fuel r.flags (some groups) { r with rest, groups, names := (key, groups) :: r.names }
    | [] => none

/-- Reads a group up to its closing parenthesis and restores the flags from
before it. -/
def readGroup : Nat → Flags → Option Nat → Reading → Option (Option (Nested Pattern) × Reading)
  | 0, _, _, _ => none
  | fuel + 1, outer, number, r => do
    let (alternatives, r) ← readChoice fuel r
    let inner := (Nested.collect choiceOf alternatives).enclosed
    match r.rest with
    | ')' :: rest =>
      let value := match number with
        | some n => group n inner.value
        | none => inner.value
      return (some { inner with value }, { r with rest, flags := outer })
    | _ => none

end

/-- The greatest depth that the written form of a pattern may have. -/
def greatestDepth : Nat := 250

end Pattern

/-- The pattern that a text denotes. -/
def Regex.ofText? (text : String) : Option Regex :=
  let chars := text.toList
  match Pattern.readChoice (4 * chars.length + 4) { rest := chars } with
  | some (alternatives, r) =>
    let read := Pattern.Nested.collect Pattern.choiceOf alternatives
    if r.rest.isEmpty && read.depth ≤ Pattern.greatestDepth &&
        read.value.weight ≤ Pattern.greatestWeight then
      some ⟨read.value, r.names⟩
    else none
  | none => none

end Conform
