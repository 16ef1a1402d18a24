import Conform.Modifiers
/-!
# Validator — what a schema does with its input

A `Validator` says what becomes of absent input and of present input at a
path. All validators look alike from here: their outputs are values. A
leaf makes one with `Modifiers.validator`, from its own step and the way
its output is written as a value, and the composites combine those of
their parts.

The operations on whole collections, `parseArray` and `parseRecord`, run
one validator on every element and report the flat list of issues.
-/


namespace Conform

/-- What becomes of absent and of present input. -/
structure Validator where
  /-- Absent input: an output, no output, or issues. -/
  absent : Path → Checked (Option Value)
  /-- Present input: an output or issues. -/
  present : Value → Path → Checked Value

/-- The validator of a step with its modifiers. -/
def Modifiers.validator {α : Type} (m : Modifiers α) (step : Value → Path → Checked α)
    (toValue : α → Value) : Validator where
  absent path := (m.absent path).map fun output => output.map toValue
  present value path := (m.present step value path).map toValue

namespace Validator

/-- Possibly absent input at a path. -/
def parse (v : Validator) : Option Value → Path → Checked (Option Value)
  | some value, path => (v.present value path).map some
  | none, path => v.absent path

/-- Present input at the root. -/
def parseValue (v : Validator) (value : Value) : Checked (Option Value) :=
  v.parse (some value) .root

/-- Present input at the root passes. -/
def validate (v : Validator) (value : Value) : Bool := (v.parseValue value).passed

/-- The results of a validator for each item, at its position. -/
def onItems (v : Validator) (items : List Value) (path : Path) : List (Checked Value) :=
  items.zipIdx.map fun (item, i) => v.present item (path.index i)

/-- Every element of an array. -/
def parseArray (v : Validator) (value : Value) (path : Path) : Checked (List Value) :=
  match value with
  | .array items => Checked.collect (v.onItems items path)
  | _ => Checked.fail (.typeMismatch path "array" value)

/-- Every member of an object, under the keys of the input. -/
def parseRecord (v : Validator) (value : Value) (path : Path) : Checked Members :=
  match value with
  | .object members => Checked.collect <| members.map fun (key, member) =>
      (v.present member (path.field key)).map fun output => (key, output)
  | _ => Checked.fail (.typeMismatch path "record" value)

def validateArray (v : Validator) (value : Value) : Bool := (v.parseArray value .root).passed

def validateRecord (v : Validator) (value : Value) : Bool := (v.parseRecord value .root).passed

end Validator

end Conform
