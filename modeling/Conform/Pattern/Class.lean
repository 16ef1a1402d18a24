import Conform.Pattern.Escape
/-!
# Class — sets of characters in brackets

A class lists characters, ranges of them, escapes that stand for a
character or a set, named sets of ASCII, and further classes. Between two
lists may stand an operation, which takes in all that is in front of it.

The readers recurse on a bound that the length of the text supplies: every
level takes at least one character.
-/


namespace Conform.Pattern

open Unicode

namespace Class

/-- The sets that a class between colons can name. All are of ASCII characters. -/
def named? (name : String) : Option CodeSet :=
  let upper := CodeSet.range 0x41 0x5A
  let lower := CodeSet.range 0x61 0x7A
  match name with
  | "alnum" => some (.unionOf [Escape.asciiDigit, upper, lower])
  | "alpha" => some (upper.union lower)
  | "ascii" => some (.range 0x00 0x7F)
  | "blank" => some (.ofList [0x09, 0x20])
  | "cntrl" => some ((CodeSet.range 0x00 0x1F).union (.singleton 0x7F))
  | "digit" => some Escape.asciiDigit
  | "graph" => some (.range 0x21 0x7E)
  | "lower" => some lower
  | "print" => some (.range 0x20 0x7E)
  | "punct" =>
    some (.unionOf [.range 0x21 0x2F, .range 0x3A 0x40, .range 0x5B 0x60, .range 0x7B 0x7E])
  | "space" => some Escape.asciiSpace
  | "upper" => some upper
  | "word" => some Escape.asciiWord
  | "xdigit" => some (.unionOf [Escape.asciiDigit, .range 0x41 0x46, .range 0x61 0x66])
  | _ => none

/-- Reads a named set after its opening bracket: whether it is negated, the set, and
what follows its closing bracket. -/
def betweenColons? : List Char → Option (Bool × CodeSet × List Char)
  | ':' :: rest =>
    let (negated, rest) := match rest with
      | '^' :: rest => (true, rest)
      | rest => (false, rest)
    let name := rest.takeWhile (· != ':')
    match rest.dropWhile (· != ':') with
    | ':' :: ']' :: rest => (named? (String.ofList name)).map fun set => (negated, set, rest)
    | _ => none
  | _ => none

/-- Reads an item that is not a class: a character or an escape. -/
def item? (flags : Flags) : List Char → Option (Escape × List Char)
  | [] => none
  | '\\' :: rest => Escape.read? flags rest
  | c :: rest => some (.code c.toNat, rest)

/-- A code point that a class can hold. -/
def code? (flags : Flags) : Escape → Option Nat
  | .code n => if flags.ascii && 0x80 ≤ n then none else some n
  | _ => none

/-- Reads a character, a set, or a range of characters. A dash in front of the
closing bracket or of another dash makes no range. -/
def range? (flags : Flags) (text : List Char) : Option (CodeSet × List Char) := do
  let (first, rest) ← item? flags text
  let rest := flags.pass rest
  let last := match rest with
    | '-' :: rest =>
      match flags.pass rest with
      | ']' :: _ => none
      | '-' :: _ => none
      | rest => some rest
    | _ => none
  match last with
  | some rest =>
    let (last, rest) ← item? flags rest
    let a ← code? flags first
    let b ← code? flags last
    if a ≤ b then return (.range a b, rest) else none
  | none =>
    match first with
    | .oneOf set => return (set, rest)
    | first => return (.singleton (← code? flags first), rest)

/-- The operations between the parts of a class. -/
inductive Operation where
  | intersection
  | difference
  | symmetric

/-- Combines the part before an operation, if any, with the part behind it. -/
def combine (flags : Flags) (before : Option (Nested CodeSet × Operation))
    (part : Nested CodeSet) : Nested CodeSet :=
  match before with
  | none => part
  | some (other, operation) =>
    let a := flags.fold other.value
    let b := flags.fold part.value
    let set := match operation with
      | .intersection => a.intersection b
      | .difference => a.difference b
      | .symmetric => a.symmetricDifference b
    ⟨set, max other.depth part.depth + 1⟩

mutual

/-- Reads a class after its opening bracket. Dashes at its start stand for
themselves, and so does a closing bracket. -/
def read (flags : Flags) : Nat → List Char → Option (Nested CodeSet × List Char)
  | 0, _ => none
  | fuel + 1, text => do
    let (negated, rest) := match flags.pass text with
      | '^' :: rest => (true, flags.pass rest)
      | rest => (false, rest)
    let (dashes, rest) := flags.spanAll (· = '-') rest
    let (start, rest) := match dashes, rest with
      | [], ']' :: rest => ([']'], rest)
      | dashes, rest => (dashes, rest)
    let (part, rest) ←
      readItems flags fuel none (start.map fun c => { value := .singleton c.toNat }) rest
    return (Nested.enclosed { part with value := ← flags.settle? negated part.value }, rest)

/-- Reads the items of a class up to its closing bracket, behind the parts before
the last operation and the items read so far. -/
def readItems (flags : Flags) :
    Nat → Option (Nested CodeSet × Operation) → List (Nested CodeSet) → List Char →
      Option (Nested CodeSet × List Char)
  | 0, _, _, _ => none
  | fuel + 1, before, items, text =>
    let operation (op : Operation) (rest : List Char) :=
      let part := combine flags before (Nested.collect .unionOf items)
      readItems flags fuel (some (part, op)) [] rest
    match flags.pass text with
    | [] => none
    | ']' :: rest => some (combine flags before (Nested.collect .unionOf items), rest)
    | '&' :: '&' :: rest => operation .intersection rest
    | '-' :: '-' :: rest => operation .difference rest
    | '~' :: '~' :: rest => operation .symmetric rest
    | '[' :: rest =>
      match betweenColons? rest with
      | some (negated, set, rest) => do
        readItems flags fuel before ({ value := ← flags.settle? negated set } :: items) rest
      | none => do
        let (set, rest) ← read flags fuel rest
        readItems flags fuel before (set :: items) rest
    | text => do
      let (set, rest) ← range? flags text
      readItems flags fuel before ({ value := set } :: items) rest

end

end Class

end Conform.Pattern
