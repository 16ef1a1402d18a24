import Conform.Validator
/-!
# Union — the rule for one of several alternatives

The alternatives are tried in order and the first that accepts decides the
output. If none accepts, one aggregate issue relays the findings of all.
-/


namespace Conform

namespace Union

/-- The output of the first alternative that accepts, or the findings of all. -/
def firstOutput : List Validator → Value → Path → Except (List Issue) Value
  | [], _, _ => .error []
  | alternative :: rest, value, path =>
    match alternative.present value path with
    | .ok output => .ok output
    | .error issues =>
      match firstOutput rest value path with
      | .ok output => .ok output
      | .error others => .error (issues.toList ++ others)

/-- The issue of a value that no alternative accepts. Without findings to
relay it is a refinement issue, but a union with an alternative has some. -/
def failure (count : Nat) (path : Path) (value : Value) (sub : List Issue) : Issue :=
  let message :=
    s!"Expected input to match one of the {count} validators, but it matched none"
  match Issues.ofList? sub with
  | some sub => { Issue.aggregate path message value sub with code := "invalid_union" }
  | none => .refinement path "invalid_union" message value

/-- The result for a value from what its alternatives say, where `count` is
their number. -/
def conclude (count : Nat) (value : Value) (path : Path) (result : Except (List Issue) Value) :
    Checked Value :=
  match result with
  | .ok output => .ok output
  | .error sub => Checked.fail (failure count path value sub)

/-- Tries the alternatives. -/
def check (alternatives : List Validator) (value : Value) (path : Path) : Checked Value :=
  conclude alternatives.length value path (firstOutput alternatives value path)

end Union

/-- The validator of a union. -/
def Validator.union (modifiers : Modifiers Value) (alternatives : List Validator) : Validator :=
  modifiers.validator (Union.check alternatives) id

/-- The validator that accepts absence around another. Absent input has the
wrapper's default, or else whatever the inner validator makes of it, or else
no output; present input goes to the inner validator. -/
def Validator.optional (modifiers : Modifiers Value) (inner : Validator) : Validator where
  absent path :=
    match modifiers.fallback with
    | some output => .ok (some output)
    | none => .ok (((inner.absent path).toOption).getD none)
  present := (modifiers.validator inner.present id).present

end Conform
