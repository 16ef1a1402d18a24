import Conform.Issue
/-!
# Checked — an output, or the reasons against it

A check yields an output or issues, never both and never neither. Where
many checks are made side by side, `collect` runs all of them before it
decides: it keeps every output if all passed, and every issue, in order,
if one did not. `both` combines two checks in the same way, and
`gather` chains it along a list.
-/


namespace Conform

/-- The result of a check. -/
abbrev Checked (α : Type) := Except Issues α

namespace Checked

variable {α β : Type}

/-- The issues of a check that failed. -/
def issues : Checked α → List Issue
  | .ok _ => []
  | .error issues => issues.toList

/-- The output of a check that passed. -/
def output? : Checked α → Option α
  | .ok output => some output
  | .error _ => none

def passed : Checked α → Bool
  | .ok _ => true
  | .error _ => false

/-- A failure with one issue. -/
def fail (issue : Issue) : Checked α := .error (.single issue)

/-- Passes with the output if there are no issues. -/
def settle (output : α) (issues : List Issue) : Checked α :=
  match Issues.ofList? issues with
  | none => .ok output
  | some issues => .error issues

/-- All outputs, or all issues. -/
def collect (results : List (Checked α)) : Checked (List α) :=
  settle (results.filterMap output?) (results.flatMap issues)

/-- Both outputs, or the issues of both, those of the left first. -/
def both (left : Checked α) (right : Checked β) : Checked (α × β) :=
  match left, right with
  | .ok a, .ok b => .ok (a, b)
  | .ok _, .error issues => .error issues
  | .error issues, .ok _ => .error issues
  | .error before, .error after => .error (before ++ after)

/-- Combines the checks of a list one by one, from the left. -/
def gather : List (Checked α) → Checked (List α)
  | [] => .ok []
  | result :: rest => (both result (gather rest)).map fun (a, as) => a :: as

/-- Repeats a failure under one issue. -/
def wrap (result : Checked α) (issue : Issues → Issue) : Checked α :=
  result.mapError fun issues => .single (issue issues)

end Checked

end Conform
