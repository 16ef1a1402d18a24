import Conform.Schema
/-!
# Family — recursive definitions

A `Family` gives a schema for everything that a lazy node can refer to.
`Family.resolve` is the step of a lazy node: it runs the target one level
deeper, under the smallest limit of the lazy nodes that are open, and it
fails when the level would pass that limit. The distance from the level
to the limit shrinks with every step, so every run ends, whatever the
input and however the definitions refer to each other.
-/


namespace Conform

/-- The targets of lazy nodes. -/
abbrev Family := Deferred → Schema

/-- How many lazy nodes are open, and the smallest of their limits. -/
structure Scope where
  depth : Nat
  limit : Nat
deriving DecidableEq, Repr, Inhabited

namespace Scope

/-- Outside of all lazy nodes. -/
def outside : Scope := ⟨0, 18446744073709551615⟩

/-- The limit in force at a lazy node. -/
def limitAt (scope : Scope) (limit : Nat) : Nat := min scope.limit limit

/-- Inside a lazy node. -/
def enter (scope : Scope) (limit : Nat) : Scope := ⟨scope.depth + 1, scope.limitAt limit⟩

/-- How many more lazy nodes can be opened. -/
def remaining (scope : Scope) : Nat := scope.limit - scope.depth

theorem remaining_enter_lt {scope : Scope} {limit : Nat} (h : scope.depth < scope.limitAt limit) :
    (scope.enter limit).remaining < scope.remaining := by
  simp only [limitAt] at h
  simp only [remaining, enter, limitAt]
  omega

end Scope

namespace Family

/-- The issue of a lazy node beyond the limit. -/
def depthIssue (path : Path) (limit : Nat) (value : Value) : Issue :=
  .refinement path "max_depth_exceeded" s!"maximum depth {limit} exceeded" value

/-- The step of a lazy node. -/
def resolve (family : Family) (today : Int) (scope : Scope) (target : Deferred) (limit : Nat)
    (value : Value) (path : Path) : Checked Value :=
  if scope.depth < scope.limitAt limit then
    let inner : Env := ⟨today, fun target' limit' value path =>
      resolve family today (scope.enter limit) target' limit' value path⟩
    ((family target).validator inner).present value path
  else Checked.fail (depthIssue path (scope.limitAt limit) value)
termination_by scope.remaining
decreasing_by exact Scope.remaining_enter_lt ‹_›

/-- The meaning of schemas inside a number of lazy nodes. -/
def env (family : Family) (today : Int) (scope : Scope) : Env :=
  ⟨today, family.resolve today scope⟩

/-- The validator of a schema outside of all lazy nodes. -/
def validator (family : Family) (today : Int) (s : Schema) : Validator :=
  s.validator (family.env today .outside)

end Family

/-- Schemas by name. -/
abbrev Definitions := List (String × Schema)

/-- The schema of a name. A name without a definition accepts nothing. -/
def Definitions.schema (definitions : Definitions) (name : String) : Schema :=
  (definitions.lookup name).getD (.union [] {})

/-- The family in which every lazy node means the definition of its name. -/
def Definitions.family (definitions : Definitions) : Family :=
  fun target => definitions.schema target.name

end Conform
