import Conform.Validator
/-!
# Tuple — the rule for arrays with a child at every position

The length of the input has to be the number of positions, or no position
is parsed. There are two kinds of tuples. A listed tuple parses its
positions into a list and collects their findings. A typed tuple combines
the results position by position, each with all that follow. Their outputs
are arrays.
-/


namespace Conform

/-- The two kinds of tuples. -/
inductive TupleKind where
  | listed
  | typed
deriving DecidableEq, Repr, Inhabited

namespace Tuple

/-- The issue of an array of the wrong length. -/
def lengthIssue (arity : Nat) (items : List Value) (path : Path) : Issue :=
  (Issue.refinement path "tuple_length"
    s!"Expected tuple of length {arity}, but received {items.length}" (.array items)).expecting
    s!"{arity} items"

/-- The issue of a tuple with findings at its positions. -/
def failure (path : Path) (value : Value) (sub : Issues) : Issue :=
  .aggregate path s!"Tuple validation failed with {sub.length} issue(s)" value sub

/-- The positions parsed one after the other. -/
def positions (children : List Validator) (items : List Value) (path : Path) :
    List (Checked Value) :=
  (children.zip items).zipIdx.map fun ((child, item), i) => child.present item (path.index i)

/-- The results of all positions together. -/
def combine (kind : TupleKind) (results : List (Checked Value)) : Checked (List Value) :=
  match kind with
  | .listed => Checked.collect results
  | .typed => Checked.gather results

/-- The result for an array of the right length from the results of its
positions. -/
def conclude (kind : TupleKind) (items : List Value) (path : Path)
    (results : List (Checked Value)) : Checked (List Value) :=
  (combine kind results).wrap (failure path (.array items))

/-- Parses an array position by position. -/
def check (kind : TupleKind) (children : List Validator) (value : Value) (path : Path) :
    Checked (List Value) :=
  match value with
  | .array items =>
    if items.length = children.length then
      conclude kind items path (positions children items path)
    else Checked.fail (lengthIssue children.length items path)
  | _ => Checked.fail (.typeMismatch path "array" value)

end Tuple

/-- The validator of tuples. -/
def Validator.tuple (kind : TupleKind) (modifiers : Modifiers (List Value))
    (children : List Validator) : Validator :=
  modifiers.validator (Tuple.check kind children) .array

end Conform
