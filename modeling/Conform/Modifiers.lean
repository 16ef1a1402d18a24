import Conform.Checked
/-!
# Modifiers — what every validator can be told

Every validator can be strict or coercing, can accept absence, can have a
default, and can carry three hooks: one that prepares present input, a
custom check of the output, and one that finishes the output. They run in
a fixed order around the validator's own `step`, and the first failure
ends the run. `Modifiers.present` is that run.

A custom check replaces the one before it. A refinement is put behind the
custom check that is there.
-/


namespace Conform

/-- The configuration shared by all validators with outputs in `α`. -/
structure Modifiers (α : Type) where
  /-- Input of another type is refused and not converted. -/
  strict : Bool := true
  /-- Absent input is accepted. -/
  optional : Bool := false
  /-- The output for absent input. -/
  fallback : Option α := none
  /-- Applied to present input before the validator's own step. -/
  prepare : Option (Value → Value) := none
  /-- Checks the output and may replace it. -/
  custom : Option (α → Path → Checked α) := none
  /-- Applied to the output at the end. -/
  finish : Option (α → α) := none

namespace Modifiers

variable {α : Type}

instance : Inhabited (Modifiers α) := ⟨{}⟩

/-! ## Building -/

/-- Refuses input of another type. -/
def beStrict (m : Modifiers α) : Modifiers α := { m with strict := true }

/-- Converts compatible input. -/
def coerce (m : Modifiers α) : Modifiers α := { m with strict := false }

/-- Accepts absent input. -/
def acceptAbsent (m : Modifiers α) : Modifiers α := { m with optional := true }

/-- Stands in an output for absent input. -/
def withDefault (m : Modifiers α) (output : α) : Modifiers α := { m with fallback := some output }

def preTransform (m : Modifiers α) (f : Value → Value) : Modifiers α := { m with prepare := some f }

def postTransform (m : Modifiers α) (f : α → α) : Modifiers α := { m with finish := some f }

/-- Replaces the custom check. -/
def setCustom (m : Modifiers α) (check : α → Path → Checked α) : Modifiers α :=
  { m with custom := some check }

/-- Puts a check behind the custom check, if there is one. -/
def addCustom (m : Modifiers α) (check : α → Path → Checked α) : Modifiers α :=
  { m with custom := some fun output path =>
      match m.custom with
      | some earlier => earlier output path >>= fun output => check output path
      | none => check output path }

/-- A predicate on the output as a check. -/
def refinement (accepts : α → Bool) (message : String) (output : α) (path : Path) : Checked α :=
  if accepts output then .ok output
  else Checked.fail { Issue.new path .refinement message with code := "custom" }

/-- Requires a predicate of the output. -/
def refine (m : Modifiers α) (accepts : α → Bool) (message : String) : Modifiers α :=
  m.addCustom (refinement accepts message)

/-! ## Running -/

/-- Present input as the validator's own step sees it. -/
def prepared (m : Modifiers α) (value : Value) : Value :=
  match m.prepare with
  | some f => f value
  | none => value

/-- The custom check, passing if there is none. -/
def checked (m : Modifiers α) (output : α) (path : Path) : Checked α :=
  match m.custom with
  | some check => check output path
  | none => .ok output

/-- The output as it is handed out. -/
def finished (m : Modifiers α) (output : α) : α :=
  match m.finish with
  | some f => f output
  | none => output

/-- What follows the step: the custom check and the finish. -/
def conclude (m : Modifiers α) (path : Path) (result : Checked α) : Checked α := do
  let output ← result
  let output ← m.checked output path
  return m.finished output

/-- Runs present input: preparation, the step, the custom check, the finish. -/
def present (m : Modifiers α) (step : Value → Path → Checked α) (value : Value) (path : Path) :
    Checked α :=
  m.conclude path (step (m.prepared value) path)

/-- Runs absent input: the default, or nothing if absence is accepted. -/
def absent (m : Modifiers α) (path : Path) : Checked (Option α) :=
  match m.fallback with
  | some output => .ok (some output)
  | none => if m.optional then .ok none else Checked.fail (.required path)

end Modifiers

end Conform
