import Conform.Family
/-!
# Session — calls that share targets

A lazy node with a handle builds its target when it is first needed and
keeps it, together with all nodes of the same handle. A `Session` holds
the targets built so far. `Session.call` runs one call with them and then
adds the targets that the call needed.

`Schema.needs` says which those are: a lazy node needs its target when it
runs present input within its limit, and when it hands out its default.
Which nodes are run depends on the input, so it follows the run: into
declared fields, elements and positions, and through the alternatives of
a union up to the first that accepts. `Family.opens` goes on into the
targets themselves, one level deeper, as far as the limits allow.
-/


namespace Conform

/-- What lazy nodes with a limit need for present input at a path. -/
abbrev Opens := Deferred → Nat → Value → Path → List Deferred

namespace Schema

mutual

/-- The lazy nodes whose targets a schema needs for an input, in the order of the run.
What lazy nodes need for present input is given by `opens`. -/
def needs (env : Env) (opens : Opens) : Schema → Option Value → Path → List Deferred
  | lazy target limit modifiers, some value, path =>
    opens target limit (modifiers.prepared value) path
  | lazy target _ modifiers, none, _ => if modifiers.fallback.isSome then [target] else []
  | object ⟨fields, _, _, modifiers⟩, some value, path =>
    match modifiers.prepared value with
    | .object members => fieldNeeds env opens fields members path
    | _ => []
  | array item _ modifiers, some value, path =>
    match modifiers.prepared value with
    | .array items =>
      items.zipIdx.flatMap fun (x, i) => needs env opens item (some x) (path.index i)
    | _ => []
  | tuple _ items modifiers, some value, path =>
    match modifiers.prepared value with
    | .array values =>
      if values.length = items.length then positionNeeds env opens items values 0 path else []
    | _ => []
  | union alternatives modifiers, some value, path =>
    alternativeNeeds env opens alternatives (modifiers.prepared value) path
  | optional inner modifiers, some value, path =>
    needs env opens inner (some (modifiers.prepared value)) path
  | optional inner modifiers, none, path =>
    if modifiers.fallback.isSome then [] else needs env opens inner none path
  | _, _, _ => []

/-- The needs of fields, each with the value of its key. -/
def fieldNeeds (env : Env) (opens : Opens) :
    List (String × Schema) → Members → Path → List Deferred
  | [], _, _ => []
  | (name, s) :: rest, members, path =>
    needs env opens s (members.get? name) (path.field name) ++
      fieldNeeds env opens rest members path

/-- The needs of positions, from position `i` on. -/
def positionNeeds (env : Env) (opens : Opens) :
    List Schema → List Value → Nat → Path → List Deferred
  | s :: rest, value :: values, i, path =>
    needs env opens s (some value) (path.index i) ++
      positionNeeds env opens rest values (i + 1) path
  | _, _, _, _ => []

/-- The needs of alternatives up to the first that accepts. Whether the last one accepts does
not matter. -/
def alternativeNeeds (env : Env) (opens : Opens) : List Schema → Value → Path → List Deferred
  | [], _, _ => []
  | s :: rest, value, path =>
    needs env opens s (some value) path ++
      if rest.isEmpty || ((s.validator env).present value path).passed then []
      else alternativeNeeds env opens rest value path

end

end Schema

/-- The targets that a lazy node needs for present input: its own, and those that are
needed inside of it. A lazy node beyond the limit needs none. -/
def Family.opens (family : Family) (today : Int) (scope : Scope) (target : Deferred) (limit : Nat)
    (value : Value) (path : Path) : List Deferred :=
  if scope.depth < scope.limitAt limit then
    let inner : Opens := fun target' limit' value path =>
      opens family today (scope.enter limit) target' limit' value path
    target :: (family target).needs (family.env today (scope.enter limit)) inner (some value) path
  else []
termination_by scope.remaining
decreasing_by exact Scope.remaining_enter_lt ‹_›

/-- One use of a schema. -/
inductive Call where
  /-- Parses possibly absent input. -/
  | parse (input : Option Value) (path : Path)
  /-- Parses every element of an array. -/
  | parseArray (value : Value) (path : Path)
  /-- Parses every member of an object. -/
  | parseRecord (value : Value) (path : Path)

namespace Call

/-- The answer of a validator to a call. -/
def answer (v : Validator) : Call → Checked (Option Value)
  | parse input path => v.parse input path
  | parseArray value path => (v.parseArray value path).map fun outputs => some (.array outputs)
  | parseRecord value path => (v.parseRecord value path).map fun outputs => some (.object outputs)

/-- The lazy nodes whose targets a call needs. -/
def needs (env : Env) (opens : Opens) (s : Schema) : Call → List Deferred
  | parse input path => s.needs env opens input path
  | parseArray (.array items) path =>
    items.zipIdx.flatMap fun (x, i) => s.needs env opens (some x) (path.index i)
  | parseRecord (.object members) path =>
    members.flatMap fun (key, x) => s.needs env opens (some x) (path.field key)
  | _ => []

end Call

/-- The definitions, the current day, and the targets built so far by handle. -/
structure Session where
  definitions : Definitions
  today : Int
  targets : List (Nat × Schema) := []

namespace Session

/-- The target of a lazy node: the one built for its handle, or else a fresh one. -/
def target (s : Session) (d : Deferred) : Schema :=
  match d.handle.bind fun handle => s.targets.lookup handle with
  | some built => built
  | none => s.definitions.schema d.name

/-- The meaning of schemas in the session. -/
def env (s : Session) : Env := Family.env s.target s.today .outside

/-- What lazy nodes need in the session. -/
def opens (s : Session) : Opens := Family.opens s.target s.today .outside

/-- A target has been built for the handle. -/
def isInitialized (s : Session) (handle : Nat) : Bool := (s.targets.lookup handle).isSome

/-- Builds the target of a lazy node and keeps it under its handle. -/
def build (s : Session) (d : Deferred) : Session :=
  match d.handle with
  | some handle =>
    if s.isInitialized handle then s
    else { s with targets := (handle, s.target d) :: s.targets }
  | none => s

/-- Answers a call and keeps the targets that it needed. -/
def call (s : Session) (schema : Schema) (c : Call) : Checked (Option Value) × Session :=
  (c.answer (schema.validator s.env), (c.needs s.env s.opens schema).foldl build s)

end Session

end Conform
