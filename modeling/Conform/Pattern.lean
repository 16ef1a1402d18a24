import Conform.Unicode.CodeSet
/-!
# Pattern — regular expressions

A `Pattern` is built from literal texts, sets of characters, assertions
about the place, sequence, ordered choice, bounded or unbounded repetition,
and numbered groups.

The functions under *Building* are how patterns are put together. They keep
a pattern in a plain form: no sequence inside a sequence and no choice
inside a choice, neighbouring literals joined, a choice between single
characters turned into a set, and what all alternatives begin with taken
out in front of the choice. The last of these is more than tidiness: it
decides which match is preferred, since the repetition in front is then
settled before the choice.

`Regex` is a pattern with the names of its groups.
-/


namespace Conform

open Unicode (CodeSet)

/-- A condition on the characters around a place, in terms of whether they belong
to words. -/
inductive WordCondition where
  /-- One of the two belongs to a word and the other does not. -/
  | boundary
  | noBoundary
  /-- A word begins here. -/
  | start
  /-- A word ends here. -/
  | finish
  /-- No word goes on before the place. -/
  | startHalf
  /-- No word goes on behind the place. -/
  | finishHalf
deriving DecidableEq, Repr

/-- A statement about a place between two characters. -/
inductive Assertion where
  | textStart
  | textEnd
  /-- A line begins here; lines may end in a carriage return if `crlf`. -/
  | lineStart (crlf : Bool)
  | lineEnd (crlf : Bool)
  /-- A condition on words, which are words of ASCII if `ascii`. -/
  | word (condition : WordCondition) (ascii : Bool)
deriving DecidableEq, Repr

/-- A regular expression. -/
inductive Pattern where
  | empty
  /-- The characters of a text, one behind the other. -/
  | literal (text : List Char)
  /-- One character of a set. -/
  | char (set : CodeSet)
  | assertion (statement : Assertion)
  | sequence (a b : Pattern)
  /-- The left alternative is preferred. -/
  | choice (a b : Pattern)
  | group (number : Nat) (inner : Pattern)
  /-- At least `least` and at most `most` times; as often as possible first if
  `greedy`, as seldom as possible first otherwise. -/
  | repetition (least : Nat) (most : Option Nat) (greedy : Bool) (inner : Pattern)
deriving DecidableEq, Repr

/-- A pattern, and the numbers of its named groups. -/
structure Regex where
  pattern : Pattern
  names : List (String × Nat)
deriving DecidableEq, Repr

namespace Pattern

/-! ## Views -/

/-- The patterns that stand one behind the other in a pattern. -/
def items : Pattern → List Pattern
  | empty => []
  | sequence a b => a.items ++ b.items
  | p => [p]

/-- The patterns between which a pattern chooses. -/
def alternatives : Pattern → List Pattern
  | choice a b => a.alternatives ++ b.alternatives
  | p => [p]

/-- The text of a literal. -/
def text? : Pattern → Option (List Char)
  | literal text => some text
  | _ => none

/-- The set of a literal of one character. -/
def letter? : Pattern → Option CodeSet
  | literal [c] => some (.singleton c.toNat)
  | _ => none

/-- The set of a pattern for one character. -/
def set? : Pattern → Option CodeSet
  | char set => some set
  | _ => none

/-- Every match takes at least one character. -/
def consumes : Pattern → Bool
  | empty => false
  | literal text => !text.isEmpty
  | char _ => true
  | assertion _ => false
  | sequence a b => a.consumes || b.consumes
  | choice a b => a.consumes && b.consumes
  | group _ inner => inner.consumes
  | repetition least _ _ inner => 0 < least && inner.consumes

/-- No match takes a character. -/
def staysInPlace : Pattern → Bool
  | empty => true
  | literal text => text.isEmpty
  | char _ => false
  | assertion _ => true
  | sequence a b => a.staysInPlace && b.staysInPlace
  | choice a b => a.staysInPlace && b.staysInPlace
  | group _ inner => inner.staysInPlace
  | repetition _ most _ inner => most.isSome && inner.staysInPlace

/-! ## Building -/

/-- One character of a set, as a literal if there is only one. -/
def charOf (set : CodeSet) : Pattern :=
  match set.single? with
  | some n => literal [Char.ofNat n]
  | none => char set

/-- Joins literals that are neighbours. -/
def joinLiterals : List Pattern → List Pattern
  | [] => []
  | p :: rest =>
    match p, joinLiterals rest with
    | literal a, literal b :: more => literal (a ++ b) :: more
    | p, rest => p :: rest

/-- The sequence of a list of patterns. -/
def sequenceOf (patterns : List Pattern) : Pattern :=
  chain (joinLiterals (patterns.flatMap items))
where
  /-- One pattern behind the other, as they are. -/
  chain : List Pattern → Pattern
    | [] => empty
    | [p] => p
    | p :: rest => sequence p (chain rest)

/-- A repetition. What takes no character is repeated once at most: more often
is no different. -/
def repetitionOf (least : Nat) (most : Option Nat) (greedy : Bool) (inner : Pattern) : Pattern :=
  let (least, most) :=
    if inner.staysInPlace then (min least 1, some (min (most.getD 1) 1)) else (least, most)
  if most = some 0 then empty
  else if least = 1 ∧ most = some 1 then inner
  else repetition least most greedy inner

/-- What two lists have in common at their start. -/
def commonStart : List Pattern → List Pattern → List Pattern
  | p :: ps, q :: qs => if p = q then p :: commonStart ps qs else []
  | _, _ => []

/-- What all lists have in common at their start. -/
def sharedStart : List (List Pattern) → List Pattern
  | [] => []
  | first :: others => others.foldl commonStart first

/-- The ordered choice between alternatives, as a set if they are all literals of
one character or all sets. -/
def firstOf (options : List Pattern) : Pattern :=
  match options.mapM letter? with
  | some sets => charOf (.unionOf sets)
  | none =>
    match options.mapM set? with
    | some sets => charOf (.unionOf sets)
    | none => nest options
where
  /-- One alternative beside the other, as they are. -/
  nest : List Pattern → Pattern
    | [] => char .empty
    | [p] => p
    | p :: rest => choice p (nest rest)

/-- The choice between the patterns of a list, inner choices included. If all of
them are sequences that begin alike, what they begin with is matched once, and
the choice is made behind it. -/
def choiceOf (patterns : List Pattern) : Pattern :=
  let options := patterns.flatMap alternatives
  match options with
  | [p] => p
  | options =>
    let sequences := options.map items
    let start := sharedStart sequences
    if start.isEmpty || sequences.any (·.length < 2) then firstOf options
    else
      let ends := sequences.map fun items => sequenceOf (items.drop start.length)
      sequenceOf (start ++ [firstOf (ends.flatMap alternatives)])

end Pattern

end Conform
