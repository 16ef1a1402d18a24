import Conform.Decimal.Reader
import Conform.Rule.Ranked
import Conform.Unicode.WhiteSpace
/-!
# Number — the rule for numbers

Numbers are doubles. A number is first rounded to an integer and limited to
an interval, where that is asked for. The constraints are checked on the
result, in the order of their ranks, and the first that fails is
reported. Being an integer or not is a matter of type, so those two
constraints report type mismatches.

Unless strict, a string is taken for the number it denotes, blanks around
it ignored, and a boolean for one or zero.
-/


namespace Conform

namespace Binary64

/-- The greatest integer below which all integers are doubles. -/
def greatestSafe : Nat := 9007199254740991

/-- The number as a value: an integer where it is one and is safe, a double
otherwise, and null where it is not finite. -/
def toValue (n : Binary64) : Value :=
  match n with
  | finite _ units =>
    if n.isIntegral && units ≤ greatestSafe * one then .number (.integer n.truncate)
    else .number (.double n)
  | _ => .null

/-- The distance from one to the next double. -/
def epsilon : Binary64 := finite false (Nat.pow 2 1022)

/-- How far from a multiple of a step a number may be. -/
def tolerance (step : Binary64) : Binary64 := (step.abs.mul epsilon).mul (ofInt 10)

/-- The number is a multiple of the step, within the tolerance. -/
def isMultipleOf (n step : Binary64) : Bool :=
  let remainder := (n.rem step).abs
  remainder.le (tolerance step) || (remainder.sub step.abs).abs.le (tolerance step)

end Binary64

/-- A way of rounding to an integer. -/
inductive Rounding where
  | round
  | ceil
  | floor
deriving DecidableEq, Repr

/-- What can be required of a number. -/
inductive NumberConstraint where
  | integer
  | fractional
  | positive
  | negative
  | finite
  | lessThan (bound : Binary64)
  | greaterThan (bound : Binary64)
  | atMost (bound : Binary64)
  | atLeast (bound : Binary64)
  | between (least greatest : Binary64)
  | even
  | odd
  | multipleOf (step : Binary64)
deriving DecidableEq, Repr

/-- The transformations and constraints of a number. -/
structure NumberRule where
  rounding : Option Rounding := none
  limits : Option (Binary64 × Binary64) := none
  constraints : Ranked NumberConstraint := {}
deriving Repr, Inhabited

def Rounding.apply : Rounding → Binary64 → Binary64
  | round => Binary64.round
  | ceil => Binary64.ceil
  | floor => Binary64.floor

namespace NumberConstraint

/-- The place of a constraint in the order of checking. -/
def rank : NumberConstraint → Nat
  | integer => 0
  | fractional => 0
  | positive => 1
  | negative => 1
  | finite => 2
  | lessThan _ => 3
  | greaterThan _ => 4
  | atMost _ => 5
  | atLeast _ => 6
  | between .. => 7
  | even => 8
  | odd => 8
  | multipleOf _ => 9

/-- The remainder of division by two is zero. -/
def isEven (n : Binary64) : Bool := (n.rem (.ofInt 2)).same .zero

/-- The number meets the constraint. -/
def holds (c : NumberConstraint) (n : Binary64) : Bool :=
  match c with
  | integer => n.isIntegral
  | fractional => !n.isIntegral
  | positive => !n.le .zero
  | negative => !Binary64.zero.le n
  | finite => n.isFinite
  | lessThan bound => !bound.le n
  | greaterThan bound => !n.le bound
  | atMost bound => !bound.lt n
  | atLeast bound => !n.lt bound
  | between least greatest => !(n.lt least || greatest.lt n)
  | even => isEven n
  | odd => !isEven n && n.isFinite
  | multipleOf step => !step.same .zero && n.isMultipleOf step

def code : NumberConstraint → String
  | integer => "invalid_type"
  | fractional => "invalid_type"
  | positive => "positive"
  | negative => "negative"
  | finite => "finite"
  | lessThan _ => "lt"
  | greaterThan _ => "gt"
  | atMost _ => "lte"
  | atLeast _ => "gte"
  | between .. => "range"
  | even => "even"
  | odd => "odd"
  | multipleOf _ => "multiple_of"

/-- What was expected. -/
def expected : NumberConstraint → String
  | integer => "integer"
  | fractional => "float"
  | positive => "positive number"
  | negative => "negative number"
  | finite => "finite number"
  | lessThan bound => "less than " ++ bound.plain
  | greaterThan bound => "greater than " ++ bound.plain
  | atMost bound => "at most " ++ bound.plain
  | atLeast bound => "at least " ++ bound.plain
  | between least greatest => "between " ++ least.plain ++ " and " ++ greatest.plain
  | even => "even number"
  | odd => "odd number"
  | multipleOf step =>
    if step.same .zero then "non-zero step" else "multiple of " ++ step.plain

/-- What is required, in the words of a message. -/
def requirement : NumberConstraint → String
  | integer => "be an integer"
  | fractional => "have a fraction"
  | positive => "be positive"
  | negative => "be negative"
  | finite => "be finite"
  | lessThan bound => "be less than " ++ bound.plain
  | greaterThan bound => "be greater than " ++ bound.plain
  | atMost bound => "be at most " ++ bound.plain
  | atLeast bound => "be at least " ++ bound.plain
  | between least greatest => "be between " ++ least.plain ++ " and " ++ greatest.plain
  | even => "be even"
  | odd => "be odd"
  | multipleOf step => "be a multiple of " ++ step.plain

/-- What a number that fails is told. A step of zero is itself at fault. -/
def message (c : NumberConstraint) (n : Binary64) : String :=
  match c with
  | multipleOf step =>
    if step.same .zero then "step must be non-zero, got " ++ step.plain
    else "must " ++ c.requirement ++ ", got " ++ n.plain
  | c => "must " ++ c.requirement ++ ", got " ++ n.plain

/-- The constraint is about the type. -/
def isTypeConstraint : NumberConstraint → Bool
  | integer => true
  | fractional => true
  | _ => false

/-- The issue of a number that fails the constraint. -/
def issue? (c : NumberConstraint) (message : Option String) (n : Binary64) (path : Path) :
    Option Issue :=
  if c.holds n then none
  else if c.isTypeConstraint then
    some ((Issue.typeMismatch path c.expected n.toValue).reworded message)
  else
    some ((Issue.refinement path c.code (message.getD (c.message n)) n.toValue).expecting
      c.expected)

end NumberConstraint

namespace NumberRule

/-! ## Building -/

def roundTo (r : NumberRule) (rounding : Rounding) : NumberRule :=
  { r with rounding := some rounding }

/-- Limits the number to the interval between two bounds, in either order. -/
def clamp (r : NumberRule) (a b : Binary64) : NumberRule :=
  { r with limits := some (a.min b, a.max b) }

def constrain (r : NumberRule) (constraint : NumberConstraint) : NumberRule :=
  { r with constraints := r.constraints.constrain NumberConstraint.rank constraint }

/-- Gives a message for the constraint stated last, or for input that is not a
number. -/
def withMessage (r : NumberRule) (message : String) : NumberRule :=
  { r with constraints := r.constraints.withMessage message }

/-! ## Checking -/

/-- The number that a text denotes, blanks around it ignored. -/
def ofBlankText? (s : String) : Option Binary64 :=
  Binary64.ofText? (String.ofList (Unicode.trim s.toList))

/-- The number that an input stands for. -/
def read (r : NumberRule) (strict : Bool) (value : Value) (path : Path) : Checked Binary64 :=
  let number? := match value, strict with
    | .number n, _ => some n.toBinary64
    | .string s, false => ofBlankText? s
    | .boolean b, false => some (if b then .ofInt 1 else .zero)
    | _, _ => none
  match number? with
  | some n => if n.isNaN then mismatch else .ok n
  | none => mismatch
where
  /-- The failure of input that is not a number. -/
  mismatch : Checked Binary64 := Checked.fail <|
    (Issue.typeMismatch path "number" value).reworded r.constraints.typeMessage

/-- The number after rounding and limiting. -/
def transform (r : NumberRule) (n : Binary64) : Binary64 :=
  let n := match r.rounding with
    | some rounding => rounding.apply n
    | none => n
  match r.limits with
  | some (least, greatest) => (n.max least).min greatest
  | none => n

/-- Reads, transforms and checks a number. -/
def check (r : NumberRule) (strict : Bool) (value : Value) (path : Path) : Checked Binary64 := do
  let n ← r.read strict value path
  let n := r.transform n
  r.constraints.verify n fun constraint message => constraint.issue? message n path

end NumberRule

end Conform
