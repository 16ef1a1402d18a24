import Conform.Pattern
import Conform.Unicode.ByteSequence
/-!
# Weight — how much room a pattern takes up

A pattern is weighed as an automaton that reads the bytes of a text. A state
weighs 32; one with several ways out weighs 8 more for each byte range that
it reads, and 4 more for each way that it takes without reading. There are
two such automata: the one that reads forwards marks groups and shares what
the byte sequences of a set end with, the one that reads backwards shares
what they begin with.

`Pattern.weight` is the greater of the two. A counted repetition weighs as
much as all its copies, so the weight keeps patterns within bounds.
-/


namespace Conform

open Unicode (CodeSet ByteRange ByteSequence)

/-- The way in which an automaton reads a text. -/
inductive Direction where
  | forwards
  | backwards
deriving DecidableEq, Repr

namespace Pattern

/-! ## Sets of characters -/

/-- Groups sequences by what they begin with, and how they go on from there. -/
def branches : List ByteSequence → List (ByteRange × List ByteSequence)
  | [] => []
  | [] :: rest => branches rest
  | (head :: tail) :: rest =>
    match branches rest with
    | (next, tails) :: more =>
      if next = head then (head, tail :: tails) :: more else (head, [tail]) :: (next, tails) :: more
    | [] => [(head, [tail])]

/-- The inner states of a tree for sequences of a limited length, each as the
sequences that lead on from it. -/
def states : Nat → List ByteSequence → List (List ByteSequence)
  | 0, _ => []
  | length + 1, sequences =>
    match branches sequences with
    | [] => []
    | found => sequences :: found.flatMap fun (_, tails) => states length tails

/-- The weight of a set. -/
def setWeight (direction : Direction) (set : CodeSet) : Nat :=
  if set.ranges.all (·.2 ≤ 0x7F) then 64 + 8 * set.ranges.length
  else
    let sequences := set.byteSequences
    let states := states 4 sequences
    match direction with
    | .forwards => states.eraseDups.foldl (fun n state => n + 32 + 8 * (branches state).length) 32
    | .backwards =>
      states.foldl (fun n state => n + 32 * (branches state).length) (64 + 4 * sequences.length)

/-! ## Choices between literals -/

/-- The bytes of a text. -/
def bytes (text : List Char) : List UInt8 := text.flatMap String.utf8EncodeChar

/-- Parts a list of texts at the empty ones. -/
def parts : List (List UInt8) → List (List (List UInt8))
  | [] => [[]]
  | [] :: rest => [] :: parts rest
  | text :: rest =>
    match parts rest with
    | part :: more => (text :: part) :: more
    | [] => [[text]]

/-- The weight of a tree for texts of a limited length. Texts that begin alike share
their beginning, unless another text ends there between them. -/
def treeWeight : Nat → List (List UInt8) → Nat
  | 0, _ => 0
  | length + 1, texts =>
    if texts.all (·.isEmpty) then 0
    else
      let parts := parts <| match texts with
        | [] :: rest => [] :: rest.dropWhile (·.isEmpty)
        | texts => texts
      let readers := parts.filter (!·.isEmpty)
      readers.foldl (fun weight part =>
        let heads := (part.filterMap (·.head?)).eraseDups
        heads.foldl (fun weight head =>
          weight + treeWeight length ((part.filter (·.head? = some head)).map (·.drop 1)))
          (weight + if heads.length = 1 then 32 else 32 + 8 * heads.length))
        (32 + 4 * (readers.length + (parts.length - 1)))

/-- The weight of a choice between literals. -/
def literalsWeight (direction : Direction) (texts : List (List Char)) : Nat :=
  let texts := texts.map bytes
  let texts := if direction = .forwards then texts else texts.map List.reverse
  32 + treeWeight (texts.foldl (fun n text => max n text.length) 0 + 1) texts

/-! ## Patterns -/

/-- The weight of a pattern in one direction. As an alternative of a choice, if
`branch`, it weighs 4 more. -/
def weightTo (direction : Direction) (branch : Bool) (p : Pattern) : Nat :=
  (if branch then 4 else 0) + match p with
    | empty => 32
    | literal text => 32 * (bytes text).length
    | char set => setWeight direction set
    | assertion _ => 32
    | sequence a b => a.weightTo direction false + b.weightTo direction false
    | choice a b =>
      let ways := a.weightTo direction true + b.weightTo direction true
      if branch then ways - 4
      else
        match p.alternatives.mapM text? with
        | some texts => literalsWeight direction texts
        | none => ways + 64
    | group _ inner =>
      inner.weightTo direction false + if direction = .forwards then 64 else 0
    | repetition 0 (some 1) _ inner => inner.weightTo direction false + 72
    | repetition 0 none _ inner =>
      inner.weightTo direction false + if inner.consumes then 40 else 112
    | repetition (least + 1) none _ inner => (least + 1) * inner.weightTo direction false + 40
    | repetition least (some most) _ inner =>
      let once := inner.weightTo direction false
      if least = most then least * once
      else (if least = 0 then 32 else least * once) + 32 + (most - least) * (once + 40)

/-- The weight of a pattern with what it takes to find it in a text: a loop in front
that passes over characters, the marks of the whole match, and the final state. -/
def weight (p : Pattern) : Nat :=
  max (p.weightTo .forwards false + 208) (p.weightTo .backwards false + 144)

/-- The greatest weight that a pattern may have. -/
def greatestWeight : Nat := 10485760

end Pattern

end Conform
