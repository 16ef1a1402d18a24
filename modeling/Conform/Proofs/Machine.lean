import Conform.Session
/-!
# Machine — runs step by step, on a memory

`Schema.validator` says what a schema makes of its input, and says nothing
of how. Here a schema is run in small steps. A `Run` is a computation that
may ask for the runs of other schemas, and a step of the `Machine` replaces
the foremost request by what it stands for. Nothing guarantees beforehand
that this ever ends.

The `Memory` is what steps leave behind: the targets built so far, and the
counter of open lazy nodes, which a lazy node moves when it is opened and
puts back when it is closed. Calls made one after the other share it. The
machine also lists the limits of the nodes that are open, but no step looks
at this list.
-/


namespace Conform

/-- A computation that may ask for the runs of schemas. -/
inductive Run (α : Type) where
  | done (result : α)
  /-- Runs a schema on absent input. -/
  | absent (s : Schema) (path : Path) (next : Checked (Option Value) → Run α)
  /-- Runs a schema on present input. -/
  | present (s : Schema) (value : Value) (path : Path) (next : Checked Value → Run α)
  /-- Makes sure that the target of a lazy node is built. -/
  | build (target : Deferred) (next : Run α)
  /-- Opens a lazy node, if its limit allows, and runs its target. -/
  | resolve (target : Deferred) (limit : Nat) (value : Value) (path : Path)
    (next : Checked Value → Run α)
  /-- Closes a lazy node and puts the counter back. -/
  | close (previous : Scope) (next : Run α)

namespace Run

variable {α β : Type}

/-- The computation followed by another that depends on its result. -/
protected def bind : Run α → (α → Run β) → Run β
  | done result, f => f result
  | absent s path next, f => absent s path fun r => (next r).bind f
  | present s value path next, f => present s value path fun r => (next r).bind f
  | build target next, f => build target (next.bind f)
  | resolve target limit value path next, f =>
    resolve target limit value path fun r => (next r).bind f
  | close previous next, f => close previous (next.bind f)

instance : Monad Run where
  pure := done
  bind := Run.bind

theorem bind_done (run : Run α) : run.bind done = run := by
  induction run with
  | done => rfl
  | absent s path next ih | present s value path next ih | resolve target limit value path next ih =>
    rw [Run.bind, funext ih]
  | build target next ih | close previous next ih => rw [Run.bind, ih]

theorem bind_bind {γ : Type} (run : Run α) (f : α → Run β) (g : β → Run γ) :
    (run.bind f).bind g = run.bind fun a => (f a).bind g := by
  induction run with
  | done => rfl
  | absent s path next ih | present s value path next ih | resolve target limit value path next ih =>
    simp only [Run.bind, ih]
  | build target next ih | close previous next ih => simp only [Run.bind, ih]

instance : LawfulMonad Run := LawfulMonad.mk' Run bind_done (fun _ _ => rfl) bind_bind

/-- Runs a schema on possibly absent input. -/
def parse (s : Schema) : Option Value → Path → Run (Checked (Option Value))
  | some value, path => present s value path fun result => done (result.map some)
  | none, path => absent s path done

end Run

/-! ## One layer of a run

A rule asks for the runs of its children and puts the results together. -/

/-- A step with its modifiers. -/
def Modifiers.running {α : Type} (m : Modifiers α) (step : Value → Path → Run (Checked α))
    (toValue : α → Value) (value : Value) (path : Path) : Run (Checked Value) := do
  let result ← step (m.prepared value) path
  return (m.conclude path result).map toValue

/-- Absent input is a matter of the modifiers alone. -/
def Modifiers.missing {α : Type} (m : Modifiers α) (toValue : α → Value) (path : Path) :
    Run (Checked (Option Value)) :=
  return (m.absent path).map fun output => output.map toValue

/-- Runs the fields of an object in order. -/
def ObjectShape.running (s : ObjectShape Schema) (value : Value) (path : Path) :
    Run (Checked Members) :=
  match value with
  | .object members => do
    let results ← s.fields.mapM fun (name, child) => do
      let result ← Run.parse child (Members.get? members name) (path.field name)
      return (name, result)
    return s.conclude members path results
  | _ => return s.mismatch value path

/-- Runs the elements of an array in order. -/
def ArrayRule.running (r : ArrayRule) (item : Schema) (value : Value) (path : Path) :
    Run (Checked (List Value)) :=
  match value with
  | .array items => do
    let results ← items.zipIdx.mapM fun (x, i) => .present item x (path.index i) .done
    return r.conclude items path results
  | _ => return r.mismatch value path

namespace Tuple

/-- Runs the positions of a tuple in order. -/
def running (kind : TupleKind) (children : List Schema) (value : Value) (path : Path) :
    Run (Checked (List Value)) :=
  match value with
  | .array items =>
    if items.length = children.length then do
      let results ← (children.zip items).zipIdx.mapM fun ((child, item), i) =>
        .present child item (path.index i) .done
      return conclude kind items path results
    else return Checked.fail (lengthIssue children.length items path)
  | _ => return Checked.fail (.typeMismatch path "array" value)

end Tuple

namespace Union

/-- Runs the alternatives of a union up to the first that accepts. -/
def runningFirst : List Schema → Value → Path → Run (Except (List Issue) Value)
  | [], _, _ => return .error []
  | alternative :: rest, value, path =>
    .present alternative value path fun
      | .ok output => .done (.ok output)
      | .error issues => do
        match ← runningFirst rest value path with
        | .ok output => return .ok output
        | .error others => return .error (issues.toList ++ others)

def running (alternatives : List Schema) (value : Value) (path : Path) : Run (Checked Value) := do
  let result ← runningFirst alternatives value path
  return conclude alternatives.length value path result

end Union

namespace Schema

/-- How a schema runs on present input. -/
def onPresent (today : Int) : Schema → Value → Path → Run (Checked Value)
  | text rule modifiers =>
    modifiers.running (fun value path => .done (rule.check modifiers.strict value path)) .string
  | number rule modifiers => modifiers.running
      (fun value path => .done (rule.check modifiers.strict value path)) Binary64.toValue
  | boolean rule modifiers =>
    modifiers.running (fun value path => .done (rule.check modifiers.strict value path)) .boolean
  | date rule modifiers => modifiers.running
      (fun value path => .done (rule.check today modifiers.strict value path)) dateValue
  | enumeration rule modifiers =>
    modifiers.running (fun value path => .done (rule.check modifiers.strict value path)) id
  | object shape => shape.modifiers.running shape.running .object
  | array item rule modifiers => modifiers.running (rule.running item) .array
  | tuple kind items modifiers => modifiers.running (Tuple.running kind items) .array
  | union alternatives modifiers => modifiers.running (Union.running alternatives) id
  | optional inner modifiers =>
    modifiers.running (fun value path => .present inner value path .done) id
  | lazy target limit modifiers =>
    modifiers.running (fun value path => .resolve target limit value path .done) id

/-- How a schema runs on absent input. A wrapper asks what it is around, and a
lazy node needs its target to write down its default. -/
def onAbsent : Schema → Path → Run (Checked (Option Value))
  | text _ modifiers => modifiers.missing .string
  | number _ modifiers => modifiers.missing Binary64.toValue
  | boolean _ modifiers => modifiers.missing .boolean
  | date _ modifiers => modifiers.missing dateValue
  | enumeration _ modifiers => modifiers.missing id
  | object shape => shape.modifiers.missing .object
  | array _ _ modifiers => modifiers.missing .array
  | tuple _ _ modifiers => modifiers.missing .array
  | union _ modifiers => modifiers.missing id
  | optional inner modifiers => fun path =>
    match modifiers.fallback with
    | some output => .done (.ok (some output))
    | none => .absent inner path fun result => .done (.ok (result.toOption.getD none))
  | lazy target _ modifiers => fun path =>
    if modifiers.fallback.isSome then .build target (modifiers.missing id path)
    else modifiers.missing id path

end Schema

/-- How a schema answers a call. -/
def Call.running (s : Schema) : Call → Run (Checked (Option Value))
  | parse input path => Run.parse s input path
  | parseArray value path =>
    match value with
    | .array items => do
      let results ← items.zipIdx.mapM fun (x, i) => .present s x (path.index i) .done
      return (Checked.collect results).map fun outputs => some (.array outputs)
    | _ => return Checked.fail (.typeMismatch path "array" value)
  | parseRecord value path =>
    match value with
    | .object members => do
      let results ← members.mapM fun (key, x) =>
        .present s x (path.field key) fun result =>
          .done (result.map fun output => (key, output))
      return (Checked.collect results).map fun outputs => some (.object outputs)
    | _ => return Checked.fail (.typeMismatch path "record" value)

/-! ## The machine -/

/-- What calls leave behind: the targets built so far, and the counter of open
lazy nodes. -/
structure Memory where
  session : Session
  scope : Scope

/-- A run under way. -/
structure Machine (α : Type) where
  memory : Memory
  /-- The limits of the lazy nodes that are open, from the innermost. -/
  active : List Nat
  run : Run α

namespace Machine

variable {α : Type}

/-- Opens a lazy node: its target is built, and run one level deeper. -/
def opened (m : Machine α) (target : Deferred) (limit : Nat) (value : Value) (path : Path)
    (next : Checked Value → Run α) : Machine α where
  memory := ⟨m.memory.session.build target, m.memory.scope.enter limit⟩
  active := limit :: m.active
  run := .present (m.memory.session.target target) value path fun result =>
    .close m.memory.scope (next result)

/-- One step. A machine that is done stays as it is. -/
def step (m : Machine α) : Machine α :=
  match m.run with
  | .done _ => m
  | .absent s path next => { m with run := (s.onAbsent path).bind next }
  | .present s value path next =>
    { m with run := (s.onPresent m.memory.session.today value path).bind next }
  | .build target next =>
    { m with memory := { m.memory with session := m.memory.session.build target }, run := next }
  | .resolve target limit value path next =>
    if m.memory.scope.depth < m.memory.scope.limitAt limit then
      m.opened target limit value path next
    else
      let issue := Family.depthIssue path (m.memory.scope.limitAt limit) value
      { m with run := next (Checked.fail issue) }
  | .close previous next =>
    { memory := { m.memory with scope := previous }, active := m.active.tail, run := next }

section Resolve

variable {session : Session} {scope : Scope} {active : List Nat} {target : Deferred} {limit : Nat}
  {value : Value} {path : Path} {next : Checked Value → Run α}

theorem step_resolve_of_lt (h : scope.depth < scope.limitAt limit) :
    step ⟨⟨session, scope⟩, active, .resolve target limit value path next⟩ =
      ⟨⟨session.build target, scope.enter limit⟩, limit :: active,
        .present (session.target target) value path fun result => .close scope (next result)⟩ := by
  simp only [step, h, if_true]
  rfl

theorem step_resolve_of_not_lt (h : ¬ scope.depth < scope.limitAt limit) :
    step ⟨⟨session, scope⟩, active, .resolve target limit value path next⟩ =
      ⟨⟨session, scope⟩, active,
        next (Checked.fail (Family.depthIssue path (scope.limitAt limit) value))⟩ := by
  simp only [step, h, if_false]

end Resolve

/-- A number of steps. -/
def steps : Nat → Machine α → Machine α
  | 0, m => m
  | n + 1, m => steps n m.step

/-- The machine at the beginning of a call. -/
def start (memory : Memory) (s : Schema) (c : Call) : Machine (Checked (Option Value)) :=
  ⟨memory, [], c.running s⟩

/-- The machine at the end of a call. -/
def finished (memory : Memory) (answer : α) : Machine α := ⟨memory, [], .done answer⟩

end Machine

end Conform
