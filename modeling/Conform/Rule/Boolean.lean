import Conform.Checked
/-!
# Boolean — the rule for booleans

A boolean can be required to be true or to be false. Unless strict, the
usual words for yes and no are taken for booleans, and so are the numbers
one and zero.
-/


namespace Conform

/-- What is required of a boolean, if anything. -/
structure BooleanRule where
  wanted : Option Bool := none
deriving DecidableEq, Repr, Inhabited

namespace BooleanRule

def trueWords : List String :=
  ["true", "TRUE", "True", "1", "yes", "YES", "Yes", "on", "ON", "On", "Y", "y", "T", "t"]

def falseWords : List String :=
  ["false", "FALSE", "False", "0", "no", "NO", "No", "off", "OFF", "Off", "N", "n", "F", "f"]

/-- Requires true. -/
def truthy (r : BooleanRule) : BooleanRule := { r with wanted := some true }

/-- Requires false. -/
def falsy (r : BooleanRule) : BooleanRule := { r with wanted := some false }

/-- The boolean that an input stands for. -/
def read? (strict : Bool) (value : Value) : Option Bool :=
  match value, strict with
  | .boolean b, _ => some b
  | .string s, false =>
    if trueWords.contains s then some true
    else if falseWords.contains s then some false
    else none
  | .number n, false =>
    if n.toBinary64.same (.ofInt 1) then some true
    else if n.toBinary64.same .zero then some false
    else none
  | _, _ => none

/-- The issue of a boolean that is not the wanted one. -/
def refusal (wanted : Bool) (value : Value) (path : Path) : Issue :=
  if wanted then
    .refinement path "truthy" "expected a truthy value, received a falsy value" value
  else
    .refinement path "falsy" "expected a falsy value, received a truthy value" value

/-- Reads and checks a boolean. -/
def check (r : BooleanRule) (strict : Bool) (value : Value) (path : Path) : Checked Bool :=
  match read? strict value with
  | none => Checked.fail (.typeMismatch path "boolean" value)
  | some b =>
    match r.wanted with
    | some wanted => if wanted = b then .ok b else Checked.fail (refusal wanted value path)
    | none => .ok b

end BooleanRule

end Conform
