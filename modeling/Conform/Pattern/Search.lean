import Conform.Pattern.Program
import Conform.Unicode.Word
import Std.Data.HashSet
/-!
# Search — where a pattern matches

`Program.run` follows the steps of a program from a place of a text. Of two
ways it takes the preferred one first and comes back to the other. No step
is taken twice at the same place: what follows depends on the step and the
place alone, so the second time could only repeat the first. That bounds
every run by the number of steps and places, and it ends a repetition of
something that matches nothing.

`Program.findFrom` tries the places of a text from left to right and takes
the first match at the first place that has one.
-/


namespace Conform

/-- A place in a text. -/
structure Place where
  /-- How many characters stand in front of it. -/
  position : Nat
  previous : Option Char
  rest : List Char

namespace Place

/-- The start of a text. -/
def start (text : List Char) : Place := ⟨0, none, text⟩

/-- The character behind the place, and the place behind that. -/
def next? (p : Place) : Option (Char × Place) :=
  match p.rest with
  | char :: rest => some (char, ⟨p.position + 1, some char, rest⟩)
  | [] => none

/-- The text from a place up to a later one. -/
def textTo (p later : Place) : List Char := p.rest.take (later.position - p.position)

/-- There is a character, and it belongs to a word, or to a word of ASCII. -/
def isInWord (ascii : Bool) : Option Char → Bool
  | some c => if ascii then c.isAlphanum || c = '_' else Unicode.isWord c
  | none => false

/-- A condition on words holds between what stands before and behind a place. -/
def holdsBetween (before behind : Bool) : WordCondition → Bool
  | .boundary => before != behind
  | .noBoundary => before == behind
  | .start => !before && behind
  | .finish => before && !behind
  | .startHalf => !before
  | .finishHalf => !behind

/-- An assertion holds at the place. Where lines may end in a carriage return,
there is no place between that and a line feed behind it. -/
def satisfies (p : Place) : Assertion → Bool
  | .textStart => p.previous.isNone
  | .textEnd => p.rest.isEmpty
  | .lineStart crlf =>
    p.previous.isNone || p.previous = some '\n' ||
      crlf && p.previous = some '\r' && p.rest.head? != some '\n'
  | .lineEnd crlf =>
    p.rest.isEmpty || crlf && p.rest.head? = some '\r' ||
      p.rest.head? = some '\n' && !(crlf && p.previous = some '\r')
  | .word condition ascii =>
    holdsBetween (isInWord ascii p.previous) (isInWord ascii p.rest.head?) condition

end Place

/-- A place that a run has reached, with the marks of groups passed on the way. -/
structure Cursor where
  place : Place
  /-- The marks with their places, the latest first. -/
  marks : List ((Nat × Bool) × Place) := []

namespace Cursor

/-- Start and end of the latest match of a group. -/
def group? (c : Cursor) (number : Nat) : Option (Place × Place) := do
  return (← c.marks.lookup (number, false), ← c.marks.lookup (number, true))

end Cursor

/-! ## Running -/

/-- A step that is due, and the place for it. -/
abbrev Turn := Nat × Cursor

/-- The turns taken so far, as addresses and positions. -/
abbrev Taken := Std.HashSet (Nat × Nat)

/-- The turns that a step leads to, the preferred one first. -/
def Step.next (step : Step) (address : Nat) (c : Cursor) : List Turn :=
  match step with
  | read set =>
    match c.place.next? with
    | some (char, place) => if set.holdsChar char then [(address + 1, { c with place })] else []
    | none => []
  | check statement => if c.place.satisfies statement then [(address + 1, c)] else []
  | mark group closing =>
    [(address + 1, { c with marks := ((group, closing), c.place) :: c.marks })]
  | split preferred other => [(preferred, c), (other, c)]
  | jump target => [(target, c)]

namespace Program

/-- Takes the turns that are due, the first of them first, up to the end of a
match. Yields the place of that end, if there is one, and the turns taken;
`bound` limits their number. -/
def run (p : Program) : Nat → List Turn → Taken → Option Cursor × Taken
  | 0, _, taken => (none, taken)
  | _, [], taken => (none, taken)
  | bound + 1, (address, c) :: due, taken =>
    if taken.contains (address, c.place.position) then run p bound due taken
    else
      match p[address]? with
      | none => (some c, taken)
      | some step =>
        run p bound (step.next address c ++ due) (taken.insert (address, c.place.position))

/-- A bound on the turns in a text: every step is taken at most once at every
place, and leads to two turns at most. -/
def bound (p : Program) (length : Nat) : Nat := 2 * (p.size + 1) * (length + 1) + 1

/-- The first match at a place or behind it, as its start and its end. The turns
that failed at an earlier start fail again. -/
def search (p : Program) (bound : Nat) : List Char → Place → Taken → Option (Place × Cursor)
  | remaining, place, taken =>
    match p.run bound [(0, { place })] taken with
    | (some last, _) => some (place, last)
    | (none, taken) =>
      match remaining, place.next? with
      | _ :: remaining, some (_, next) => search p bound remaining next taken
      | _, _ => none

/-- The first match at or behind a place: where it starts, and its end. The bound
is one for the whole text. -/
def findFrom (p : Program) (bound : Nat) (place : Place) : Option (Place × Cursor) :=
  p.search bound place.rest place ∅

end Program

/-- The pattern matches somewhere in the text. -/
def Regex.matchesIn (r : Regex) (text : String) : Bool :=
  let chars := text.toList
  let p := r.pattern.program
  (p.findFrom (p.bound chars.length) (.start chars)).isSome

end Conform
