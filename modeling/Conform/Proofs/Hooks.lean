import Conform.Proofs.Precedence
import Mathlib.Data.List.DropRight
/-!
# Hooks — what calls make of the hooks of a validator

A validator is told its hooks by calls in any order. Preparing and finishing have one place
each, so the last call has it. Custom checks and refinements share one place: a custom check
throws away what is there, and a refinement is put behind it, as a function around a function.

`Hooks.ofCalls` is what a sequence of calls leaves behind, read off the calls themselves, and
`Hooks.run` goes through the hooks one after the other. The main result is that the validator of
every schema does the same.
-/


namespace Conform

/-! ## Calls on hooks -/

namespace ModifierCall

variable {α : Type}

/-- The function that prepares input, if the call sets one. -/
def preparation? : ModifierCall α → Option (Value → Value)
  | preTransform f => some f
  | _ => none

/-- The function that finishes output, if the call sets one. -/
def completion? : ModifierCall α → Option (α → α)
  | postTransform f => some f
  | _ => none

/-- The custom check that the call sets, if it does. -/
def custom? : ModifierCall α → Option (α → Path → Checked α)
  | setCustom check => some check
  | _ => none

/-- The refinement that the call adds, if it does. -/
def refinement? : ModifierCall α → Option (α → Path → Checked α)
  | refine accepts message => some (Modifiers.refinement accepts message)
  | _ => none

end ModifierCall

/-- The hooks of a validator, with its checks in a row. -/
structure Hooks (α : Type) where
  prepare : Option (Value → Value)
  checks : List (α → Path → Checked α)
  finish : Option (α → α)

namespace Hooks

variable {α : Type} {m : Modifiers α} {calls : List (ModifierCall α)} {call : ModifierCall α}
  {output : α} {path : Path} {check : α → Path → Checked α}

/-- The hooks that calls leave behind: the last preparation, the last custom check and the
refinements called for after it, in the order of the calls, and the last completion. Where no
call sets one, there is what was there before the calls. -/
def ofCalls (m : Modifiers α) (calls : List (ModifierCall α)) : Hooks α where
  prepare := (calls.filterMap ModifierCall.preparation?).getLast?.or m.prepare
  checks := ((calls.filterMap ModifierCall.custom?).getLast?.or m.custom).toList ++
    (calls.rtakeWhile fun call => call.custom?.isNone).filterMap ModifierCall.refinement?
  finish := (calls.filterMap ModifierCall.completion?).getLast?.or m.finish

/-- Makes checks one after the other, each on the output of the one before. -/
def inOrder (checks : List (α → Path → Checked α)) (output : α) (path : Path) : Checked α :=
  checks.foldlM (fun output check => check output path) output

/-- Present input as the step sees it. -/
def prepared (hooks : Hooks α) (value : Value) : Value := hooks.prepare.elim value fun f => f value

/-- The output as it is handed out. -/
def finished (hooks : Hooks α) (output : α) : α := hooks.finish.elim output fun f => f output

/-- Prepares the input, takes the step, makes the checks, and finishes the output. -/
def run (hooks : Hooks α) (step : Value → Path → Checked α) (value : Value) (path : Path) :
    Checked α := do
  let output ← step (hooks.prepared value) path
  let output ← inOrder hooks.checks output path
  return hooks.finished output

/-! ### Checks in a row -/

@[simp] theorem inOrder_nil : inOrder [] output path = .ok output := rfl

@[simp] theorem inOrder_cons {checks : List (α → Path → Checked α)} :
    inOrder (check :: checks) output path =
      check output path >>= fun output => inOrder checks output path := List.foldlM_cons

theorem inOrder_append {checks others : List (α → Path → Checked α)} :
    inOrder (checks ++ others) output path =
      inOrder checks output path >>= fun output => inOrder others output path := List.foldlM_append

/-- The first check that fails ends the row with its own issues. -/
theorem inOrder_eq_error_iff {checks : List (α → Path → Checked α)} {found : Issues} :
    inOrder checks output path = .error found ↔
      ∃ before check after a, checks = before ++ check :: after ∧
        inOrder before output path = .ok a ∧ check a path = .error found := by
  constructor
  · intro h
    induction checks generalizing output with
    | nil => cases h
    | cons first rest ih =>
      rw [inOrder_cons] at h
      cases hfirst : first output path with
      | error issues =>
        rw [hfirst] at h
        cases h
        exact ⟨[], first, rest, output, rfl, rfl, hfirst⟩
      | ok a =>
        rw [hfirst] at h
        obtain ⟨before, check, after, b, rfl, hbefore, hcheck⟩ := ih h
        refine ⟨first :: before, check, after, b, rfl, ?_, hcheck⟩
        rw [inOrder_cons, hfirst]
        exact hbefore
  · rintro ⟨before, check, after, a, rfl, hbefore, hcheck⟩
    rw [inOrder_append, hbefore]
    show inOrder (check :: after) a path = .error found
    rw [inOrder_cons, hcheck]
    rfl

/-! ### One more call -/

theorem prepare_ofCalls_concat : (ofCalls m (calls ++ [call])).prepare =
    call.preparation?.or (ofCalls m calls).prepare := by
  simp only [ofCalls, List.filterMap_append]
  cases h : call.preparation? <;> simp [h]

theorem finish_ofCalls_concat : (ofCalls m (calls ++ [call])).finish =
    call.completion?.or (ofCalls m calls).finish := by
  simp only [ofCalls, List.filterMap_append]
  cases h : call.completion? <;> simp [h]

/-- A custom check is alone at first. -/
theorem checks_ofCalls_custom (h : call.custom? = some check) :
    (ofCalls m (calls ++ [call])).checks = [check] := by
  simp [ofCalls, h]

/-- Any other call leaves the checks as they are and may put a refinement behind them. -/
theorem checks_ofCalls_concat (h : call.custom? = none) :
    (ofCalls m (calls ++ [call])).checks =
      (ofCalls m calls).checks ++ call.refinement?.toList := by
  simp only [ofCalls, List.filterMap_append, List.rtakeWhile_concat, h]
  cases hrefinement : call.refinement? <;> simp [h, hrefinement]

/-- The modifiers have these hooks. The check that they keep is the whole row. -/
structure Describes (hooks : Hooks α) (m : Modifiers α) : Prop where
  prepare : m.prepare = hooks.prepare
  checked : m.checked = inOrder hooks.checks
  finish : m.finish = hooks.finish

/-- Modifiers are described by what they are told. -/
theorem describes_ofCalls_nil (m : Modifiers α) : (ofCalls m []).Describes m where
  prepare := rfl
  checked := by
    funext output path
    have hchecks : (ofCalls m []).checks = m.custom.toList := by simp [ofCalls]
    rw [hchecks, Modifiers.checked]
    cases m.custom with
    | none => rfl
    | some check => exact (bind_pure _).symm
  finish := rfl

/-- A custom check takes the place of all checks. -/
theorem checked_call_of_custom (h : call.custom? = some check) :
    (m.call call).checked = inOrder [check] := by
  cases call <;> cases h
  funext output path
  exact (bind_pure _).symm

/-- A refinement comes behind the checks that are there, and no other call changes them. -/
theorem checked_call_of_not_custom (h : call.custom? = none) (output : α) (path : Path) :
    (m.call call).checked output path =
      m.checked output path >>= fun output => inOrder call.refinement?.toList output path := by
  cases call with
  | setCustom check => cases h
  | refine accepts message =>
    show (m.refine accepts message).checked output path =
      m.checked output path >>= fun output =>
        inOrder [Modifiers.refinement accepts message] output path
    simp only [inOrder_cons, inOrder_nil, Modifiers.checked, Modifiers.refine, Modifiers.addCustom]
    cases m.custom with
    | none => exact (bind_pure _).symm
    | some earlier => exact bind_congr fun output => (bind_pure _).symm
  | _ => exact (bind_pure _).symm

/-- **One call** changes the hooks as it is read. -/
theorem Describes.after_call {m' : Modifiers α} (h : (ofCalls m calls).Describes m')
    (call : ModifierCall α) : (ofCalls m (calls ++ [call])).Describes (m'.call call) where
  prepare := by
    rw [prepare_ofCalls_concat, ← h.prepare]
    cases call <;> rfl
  checked := by
    cases hcustom : call.custom? with
    | some check => rw [checks_ofCalls_custom hcustom, checked_call_of_custom hcustom]
    | none =>
      funext output path
      rw [checks_ofCalls_concat hcustom, inOrder_append, ← h.checked,
        checked_call_of_not_custom hcustom]
  finish := by
    rw [finish_ofCalls_concat, ← h.finish]
    cases call <;> rfl

/-- **All calls.** -/
theorem describes_ofCalls (m : Modifiers α) (calls : List (ModifierCall α)) :
    (ofCalls m calls).Describes (calls.foldl Modifiers.call m) := by
  induction calls using List.reverseRecOn with
  | nil => exact describes_ofCalls_nil m
  | append_singleton calls call ih =>
    rw [List.foldl_concat]
    exact ih.after_call call

/-- Modifiers do with present input what their hooks do. -/
theorem Describes.present_eq {hooks : Hooks α} (h : hooks.Describes m)
    (step : Value → Path → Checked α) (value : Value) (path : Path) :
    m.present step value path = hooks.run step value path := by
  have hprepared : m.prepared value = hooks.prepared value := by
    rw [Modifiers.prepared, prepared, h.prepare]
    cases hooks.prepare <;> rfl
  have hfinished : m.finished = hooks.finished := by
    funext output
    rw [Modifiers.finished, finished, h.finish]
    cases hooks.finish <;> rfl
  rw [Modifiers.present, Modifiers.conclude, hprepared, h.checked, hfinished, run]

/-! ### Where a run ends -/

variable {hooks : Hooks α} {step : Value → Path → Checked α} {value : Value}

theorem run_eq_ok_iff : hooks.run step value path = .ok output ↔
    ∃ a b, step (hooks.prepared value) path = .ok a ∧ inOrder hooks.checks a path = .ok b ∧
      hooks.finished b = output := by
  unfold run
  cases step (hooks.prepared value) path with
  | error found => simp [bind, Except.bind]
  | ok a =>
    cases h : inOrder hooks.checks a path <;> simp [bind, Except.bind, h, pure, Except.pure]

/-- A run ends with the issues of the step, or with those of the first check that fails. -/
theorem run_eq_error_iff {found : Issues} : hooks.run step value path = .error found ↔
    step (hooks.prepared value) path = .error found ∨
      ∃ a before check after b, step (hooks.prepared value) path = .ok a ∧
        hooks.checks = before ++ check :: after ∧ inOrder before a path = .ok b ∧
        check b path = .error found := by
  unfold run
  cases step (hooks.prepared value) path with
  | error issues => simp [bind, Except.bind]
  | ok a =>
    have hchecks : (do
        let output ← (Except.ok a : Checked α)
        let output ← inOrder hooks.checks output path
        return hooks.finished output) = .error found ↔
        inOrder hooks.checks a path = .error found := by
      cases h : inOrder hooks.checks a path <;> simp [bind, Except.bind, h, pure, Except.pure]
    rw [hchecks, inOrder_eq_error_iff]
    simp

end Hooks

/-! ## Schemas of all kinds -/

/-- A schema apart from its modifiers, by the type of its outputs. -/
inductive SchemaKind : Type → Type
  | text (rule : TextRule) : SchemaKind String
  | number (rule : NumberRule) : SchemaKind Binary64
  | boolean (rule : BooleanRule) : SchemaKind Bool
  | date (rule : DateRule) : SchemaKind Instant
  | enumeration (rule : EnumerationRule) : SchemaKind Value
  | object (fields : List (String × Schema)) (unknownKeys : UnknownKeys)
    (typeMessage : Option String) : SchemaKind Members
  | array (item : Schema) (rule : ArrayRule) : SchemaKind (List Value)
  | tuple (kind : TupleKind) (items : List Schema) : SchemaKind (List Value)
  | union (alternatives : List Schema) : SchemaKind Value
  | optional (inner : Schema) : SchemaKind Value
  | lazy (target : Deferred) (limit : Nat) : SchemaKind Value

namespace SchemaKind

variable {α : Type}

/-- The schema with modifiers. -/
def schema : {α : Type} → SchemaKind α → Modifiers α → Schema
  | _, text rule, m => .text rule m
  | _, number rule, m => .number rule m
  | _, boolean rule, m => .boolean rule m
  | _, date rule, m => .date rule m
  | _, enumeration rule, m => .enumeration rule m
  | _, object fields unknownKeys typeMessage, m => .object ⟨fields, unknownKeys, typeMessage, m⟩
  | _, array item rule, m => .array item rule m
  | _, tuple kind items, m => .tuple kind items m
  | _, union alternatives, m => .union alternatives m
  | _, optional inner, m => .optional inner m
  | _, lazy target limit, m => .lazy target limit m

/-- The step of the schema's own, strict or coercing. -/
def step (env : Env) (strict : Bool) : {α : Type} → SchemaKind α → Value → Path → Checked α
  | _, text rule => rule.check strict
  | _, number rule => rule.check strict
  | _, boolean rule => rule.check strict
  | _, date rule => rule.check env.today strict
  | _, enumeration rule => rule.check strict
  | _, object fields unknownKeys typeMessage =>
    (ObjectShape.mapChildren ⟨fields, unknownKeys, typeMessage, {}⟩ (Schema.validator env)).check
  | _, array item rule => rule.check (item.validator env)
  | _, tuple kind items => Tuple.check kind (items.map (Schema.validator env))
  | _, union alternatives => Union.check (alternatives.map (Schema.validator env))
  | _, optional inner => (inner.validator env).present
  | _, lazy target limit => env.resolve target limit

/-- An output as a value. -/
def toValue : {α : Type} → SchemaKind α → α → Value
  | _, text _ => .string
  | _, number _ => Binary64.toValue
  | _, boolean _ => .boolean
  | _, date _ => Schema.dateValue
  | _, enumeration _ => id
  | _, object _ _ _ => .object
  | _, array _ _ => .array
  | _, tuple _ _ => .array
  | _, union _ => id
  | _, optional _ => id
  | _, lazy _ _ => id

/-- What a schema makes of present input is a matter of its modifiers and its own step. -/
theorem attempt_schema (kind : SchemaKind α) (m : Modifiers α) (env : Env) (value : Value)
    (path : Path) : (kind.schema m).attempt env value path =
      (m.present (kind.step env m.strict) value path).map kind.toValue := by
  cases kind with
  | object fields unknownKeys typeMessage =>
    rw [schema, Schema.attempt, Schema.validator_object]
    rfl
  | tuple kind items =>
    rw [schema, Schema.attempt, Schema.validator_tuple]
    rfl
  | union alternatives =>
    rw [schema, Schema.attempt, Schema.validator_union]
    rfl
  | _ => rfl

/-- Every schema is of a kind. -/
theorem exists_schema_eq (s : Schema) :
    ∃ (α : Type) (kind : SchemaKind α) (m : Modifiers α), s = kind.schema m := by
  cases s with
  | text rule m => exact ⟨_, text rule, m, rfl⟩
  | number rule m => exact ⟨_, number rule, m, rfl⟩
  | boolean rule m => exact ⟨_, boolean rule, m, rfl⟩
  | date rule m => exact ⟨_, date rule, m, rfl⟩
  | enumeration rule m => exact ⟨_, enumeration rule, m, rfl⟩
  | object shape =>
    exact ⟨_, object shape.fields shape.unknownKeys shape.typeMessage, shape.modifiers, rfl⟩
  | array item rule m => exact ⟨_, array item rule, m, rfl⟩
  | tuple kind items m => exact ⟨_, tuple kind items, m, rfl⟩
  | union alternatives m => exact ⟨_, union alternatives, m, rfl⟩
  | optional inner m => exact ⟨_, optional inner, m, rfl⟩
  | lazy target limit m => exact ⟨_, lazy target limit, m, rfl⟩

/-- **Hooks run in their order.** Every schema is of a kind, and after any calls present input
goes through the last preparation, the step of the kind, the last custom check, the refinements
called for after it, and the last completion. The run passes if the step and all of these checks
do. It fails where the first of them fails, with its issues as they are. A refinement that passes
hands on the output, and one that fails reports the one issue with its message. -/
theorem calls_run_in_order :
    (∀ s : Schema, ∃ (α : Type) (kind : SchemaKind α) (m : Modifiers α), s = kind.schema m) ∧
      ∀ {α : Type} (kind : SchemaKind α) (m : Modifiers α) (calls : List (ModifierCall α))
        (env : Env) (value : Value) (path : Path),
        (∀ output,
          (kind.schema (calls.foldl Modifiers.call m)).attempt env value path = .ok output ↔
            ∃ a b,
              kind.step env (calls.foldl Modifiers.call m).strict
                ((Hooks.ofCalls m calls).prepared value) path = .ok a ∧
              Hooks.inOrder (Hooks.ofCalls m calls).checks a path = .ok b ∧
              kind.toValue ((Hooks.ofCalls m calls).finished b) = output) ∧
        (∀ found,
          (kind.schema (calls.foldl Modifiers.call m)).attempt env value path = .error found ↔
            kind.step env (calls.foldl Modifiers.call m).strict
                ((Hooks.ofCalls m calls).prepared value) path = .error found ∨
              ∃ a before check after b,
                kind.step env (calls.foldl Modifiers.call m).strict
                  ((Hooks.ofCalls m calls).prepared value) path = .ok a ∧
                (Hooks.ofCalls m calls).checks = before ++ check :: after ∧
                Hooks.inOrder before a path = .ok b ∧ check b path = .error found) ∧
        ∀ (accepts : α → Bool) (message : String) (a : α),
          Modifiers.refinement accepts message a path =
            if accepts a then .ok a
            else .error (.single ⟨path, .refinement, "custom", message, none, none, []⟩) := by
  refine ⟨exists_schema_eq, fun kind m calls env value path => ⟨?_, ?_, ?_⟩⟩
  · intro output
    rw [attempt_schema, (Hooks.describes_ofCalls m calls).present_eq, Checked.map_eq_ok_iff]
    constructor
    · rintro ⟨c, hrun, rfl⟩
      obtain ⟨a, b, hstep, hchecks, rfl⟩ := Hooks.run_eq_ok_iff.1 hrun
      exact ⟨a, b, hstep, hchecks, rfl⟩
    · rintro ⟨a, b, hstep, hchecks, rfl⟩
      exact ⟨_, Hooks.run_eq_ok_iff.2 ⟨a, b, hstep, hchecks, rfl⟩, rfl⟩
  · intro found
    rw [attempt_schema, (Hooks.describes_ofCalls m calls).present_eq, Checked.map_eq_error_iff,
      Hooks.run_eq_error_iff]
  · intro accepts message a
    rfl

/-- A refinement called for before a custom check is gone, and those after it stay in order. -/
example (check : Nat → Path → Checked Nat) (p q r : Nat → Bool) :
    (Hooks.ofCalls {} [.refine p "p", .setCustom check, .refine q "q", .refine r "r"]).checks =
      [check, Modifiers.refinement q "q", Modifiers.refinement r "r"] := rfl

end SchemaKind

end Conform
