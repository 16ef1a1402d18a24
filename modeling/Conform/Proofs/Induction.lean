import Conform.Family
/-!
# Induction — over a schema, and through its lazy nodes

A schema is a tree whose lazy nodes lead into other trees. `Schema.Every`
says that a property holds at every node of one tree; its constructors
follow those of `Schema`, so induction on it is structural induction with
the property at hand in every case. `Family.induction` goes through the
lazy nodes as well: the targets are met one level deeper, and what remains
of the limit shrinks.

The equations of `Schema.validator` are stated here with `map` for the
children, the form in which the induction hypotheses apply.
-/


namespace Conform

namespace Schema

/-- A property holds at every node of a schema. The targets of lazy nodes are
not part of the schema. -/
inductive Every (p : Schema → Prop) : Schema → Prop
  | text {rule modifiers} : p (.text rule modifiers) → Every p (.text rule modifiers)
  | number {rule modifiers} : p (.number rule modifiers) → Every p (.number rule modifiers)
  | boolean {rule modifiers} : p (.boolean rule modifiers) → Every p (.boolean rule modifiers)
  | date {rule modifiers} : p (.date rule modifiers) → Every p (.date rule modifiers)
  | enumeration {rule modifiers} :
      p (.enumeration rule modifiers) → Every p (.enumeration rule modifiers)
  | object {shape : ObjectShape Schema} : p (.object shape) →
      (∀ name child, (name, child) ∈ shape.fields → Every p child) → Every p (.object shape)
  | array {item rule modifiers} : p (.array item rule modifiers) → Every p item →
      Every p (.array item rule modifiers)
  | tuple {kind items modifiers} : p (.tuple kind items modifiers) →
      (∀ child ∈ items, Every p child) → Every p (.tuple kind items modifiers)
  | union {alternatives modifiers} : p (.union alternatives modifiers) →
      (∀ child ∈ alternatives, Every p child) → Every p (.union alternatives modifiers)
  | optional {inner modifiers} : p (.optional inner modifiers) → Every p inner →
      Every p (.optional inner modifiers)
  | lazy {target limit modifiers} : p (.lazy target limit modifiers) →
      Every p (.lazy target limit modifiers)

/-- What holds of all schemas holds at every node, so `Every` also gives
induction on all schemas. -/
theorem Every.of_forall {p : Schema → Prop} (h : ∀ s, p s) : ∀ s : Schema, s.Every p
  | .text .. => .text (h _)
  | .number .. => .number (h _)
  | .boolean .. => .boolean (h _)
  | .date .. => .date (h _)
  | .enumeration .. => .enumeration (h _)
  | .object ⟨fields, _, _, _⟩ => .object (h _) fun _ child _hmem => Every.of_forall h child
  | .array item .. => .array (h _) (Every.of_forall h item)
  | .tuple _ items _ => .tuple (h _) fun child _ => Every.of_forall h child
  | .union alternatives _ => .union (h _) fun child _ => Every.of_forall h child
  | .optional inner _ => .optional (h _) (Every.of_forall h inner)
  | .lazy .. => .lazy (h _)
decreasing_by
  · -- a child is smaller than its field, and the field than the list of fields
    have := List.sizeOf_lt_of_mem _hmem
    simp only [Schema.object.sizeOf_spec, ObjectShape.mk.sizeOf_spec, Prod.mk.sizeOf_spec] at this ⊢
    omega
  all_goals decreasing_tactic

/-- What follows from a property at every node holds at every node. -/
theorem Every.mono {p q : Schema → Prop} (h : ∀ s, p s → q s) {s : Schema} (hs : s.Every p) :
    s.Every q := by
  induction hs with
  | text hp => exact .text (h _ hp)
  | number hp => exact .number (h _ hp)
  | boolean hp => exact .boolean (h _ hp)
  | date hp => exact .date (h _ hp)
  | enumeration hp => exact .enumeration (h _ hp)
  | object hp _ ih => exact .object (h _ hp) ih
  | array hp _ ih => exact .array (h _ hp) ih
  | tuple hp _ ih => exact .tuple (h _ hp) ih
  | union hp _ ih => exact .union (h _ hp) ih
  | optional hp _ ih => exact .optional (h _ hp) ih
  | lazy hp => exact .lazy (h _ hp)

/-! ## The meaning of a schema from that of its children -/

theorem validators_eq_map (env : Env) (items : List Schema) :
    validators env items = items.map (validator env) := by
  induction items with
  | nil => rfl
  | cons s rest ih => rw [validators, ih, List.map_cons]

theorem fieldValidators_eq_map (env : Env) (fields : List (String × Schema)) :
    fieldValidators env fields = fields.map fun field => (field.1, field.2.validator env) := by
  induction fields with
  | nil => rfl
  | cons field rest ih =>
    obtain ⟨name, s⟩ := field
    rw [fieldValidators, ih, List.map_cons]

theorem validator_object (env : Env) (shape : ObjectShape Schema) :
    (object shape).validator env = (shape.mapChildren (validator env)).validator := by
  obtain ⟨fields, unknownKeys, typeMessage, modifiers⟩ := shape
  rw [validator, fieldValidators_eq_map]
  rfl

theorem validator_array (env : Env) (item : Schema) (rule : ArrayRule)
    (modifiers : Modifiers (List Value)) :
    (array item rule modifiers).validator env = .array rule modifiers (item.validator env) := rfl

theorem validator_tuple (env : Env) (kind : TupleKind) (items : List Schema)
    (modifiers : Modifiers (List Value)) :
    (tuple kind items modifiers).validator env =
      .tuple kind modifiers (items.map (validator env)) := by
  rw [validator, validators_eq_map]

theorem validator_union (env : Env) (alternatives : List Schema) (modifiers : Modifiers Value) :
    (union alternatives modifiers).validator env =
      .union modifiers (alternatives.map (validator env)) := by
  rw [validator, validators_eq_map]

theorem validator_optional (env : Env) (inner : Schema) (modifiers : Modifiers Value) :
    (optional inner modifiers).validator env = .optional modifiers (inner.validator env) := rfl

/-- What a schema makes of a value at a path. -/
def attempt (env : Env) (value : Value) (path : Path) (s : Schema) : Checked Value :=
  (s.validator env).present value path

end Schema

namespace ObjectShape

variable {σ τ : Type} {s : ObjectShape σ} {f : σ → τ}

theorem keys_mapChildren : (s.mapChildren f).keys = s.keys := by
  rw [keys, mapChildren, List.map_map]
  rfl

/-- Shapes of children that are made the same are the same. -/
theorem mapChildren_congr {g : σ → τ}
    (h : ∀ name child, (name, child) ∈ s.fields → f child = g child) :
    s.mapChildren f = s.mapChildren g := by
  unfold mapChildren
  congr 1
  exact List.map_congr_left fun field hfield =>
    congrArg (Prod.mk field.1) (h field.1 field.2 hfield)

/-- What holds of all children of a shape holds of the children made from them. -/
theorem forall_fields_mapChildren {p : τ → Prop}
    (h : ∀ name child, (name, child) ∈ s.fields → p (f child)) :
    ∀ name child, (name, child) ∈ (s.mapChildren f).fields → p child := by
  intro name child hmem
  obtain ⟨⟨key, source⟩, hfield, heq⟩ := List.mem_map.1 hmem
  obtain ⟨rfl, rfl⟩ := Prod.mk.inj heq
  exact h key source hfield

end ObjectShape

namespace Family

variable {family : Family} {today : Int} {scope : Scope} {target : Deferred} {limit : Nat}

/-- What lazy nodes do inside a number of others, one level spelled out. -/
theorem env_eq (family : Family) (today : Int) (scope : Scope) :
    family.env today scope = ⟨today, fun target limit value path =>
      if scope.depth < scope.limitAt limit then
        ((family target).validator (family.env today (scope.enter limit))).present value path
      else Checked.fail (depthIssue path (scope.limitAt limit) value)⟩ := by
  rw [env]
  congr 1
  funext target limit value path
  rw [resolve]
  rfl

/-- Within the limit, a lazy node does with present input what its target does
one level deeper. -/
theorem resolve_of_lt (h : scope.depth < scope.limitAt limit) :
    family.resolve today scope target limit =
      ((family target).validator (family.env today (scope.enter limit))).present := by
  funext value path
  rw [resolve, if_pos h]
  rfl

/-- Beyond the limit, it reports that the limit in force is exceeded. -/
theorem resolve_of_not_lt (h : ¬ scope.depth < scope.limitAt limit) (value : Value)
    (path : Path) :
    family.resolve today scope target limit value path =
      Checked.fail (depthIssue path (scope.limitAt limit) value) := by
  rw [resolve, if_neg h]

/-- **Induction through lazy nodes.** To prove something of every schema of a
family at every scope, prove it of one schema from what is known of the
targets one level deeper. The induction is on what remains of the limit. -/
theorem induction {p : Schema → Prop} {motive : Scope → Schema → Prop}
    (hfamily : ∀ target, (family target).Every p)
    (step : ∀ scope s, s.Every p →
      (∀ target limit, scope.depth < scope.limitAt limit →
        motive (scope.enter limit) (family target)) →
      motive scope s)
    (scope : Scope) {s : Schema} (hs : s.Every p) : motive scope s := by
  induction hn : scope.remaining using Nat.strongRecOn generalizing scope s with
  | ind n ih =>
    subst hn
    -- the targets may be larger than `s`, but they are met with less remaining
    refine step scope s hs fun target limit h => ?_
    exact ih _ (Scope.remaining_enter_lt h) (scope.enter limit) (hfamily target) rfl

end Family

end Conform
