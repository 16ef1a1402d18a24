import Conform.Checked
/-!
# Ranked — constraints in a fixed order

Some rules check their constraints in the order of a rank and not in the
order in which they were stated. `Ranked` keeps them so: a constraint is
put behind those of its rank or a lower one. It also remembers the
constraint stated last, because a message given afterwards is meant for
it. A message given before any constraint is meant for input of the wrong
type.
-/


namespace Conform

/-- Constraints with their own messages, ordered by rank. -/
structure Ranked (κ : Type) where
  entries : List (κ × Option String) := []
  /-- Where the constraint stated last stands. -/
  latest : Option Nat := none
  /-- The message for input of the wrong type. -/
  typeMessage : Option String := none
deriving Repr, Inhabited

namespace Ranked

variable {κ : Type}

/-- The number of constraints in front of a new one: all up to the first of a
greater rank. -/
def position (rank : κ → Nat) (constraint : κ) (r : Ranked κ) : Nat :=
  (r.entries.takeWhile fun entry => rank entry.1 ≤ rank constraint).length

/-- States a constraint. -/
def constrain (rank : κ → Nat) (constraint : κ) (r : Ranked κ) : Ranked κ :=
  let i := r.position rank constraint
  { r with
    entries := r.entries.take i ++ (constraint, none) :: r.entries.drop i
    latest := some i }

/-- Gives a message for the constraint stated last, or for input of the wrong
type if there is none. -/
def withMessage (message : String) (r : Ranked κ) : Ranked κ :=
  match r.latest with
  | some i =>
    { r with entries := r.entries.modify i fun entry => (entry.1, some message) }
  | none => { r with typeMessage := some message }

/-- The issue of the first constraint that fails. -/
def firstIssue (r : Ranked κ) (check : κ → Option String → Option Issue) : Option Issue :=
  r.entries.findSome? fun (constraint, message) => check constraint message

/-- Passes with the output if no constraint fails. -/
def verify {α : Type} (r : Ranked κ) (output : α) (check : κ → Option String → Option Issue) :
    Checked α :=
  match r.firstIssue check with
  | some issue => Checked.fail issue
  | none => .ok output

end Ranked

end Conform
