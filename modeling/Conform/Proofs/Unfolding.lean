import Conform.Proofs.Induction
/-!
# Unfolding — lazy nodes replaced by what they stand for

A recursive family describes values with the help of a counter: how many
lazy nodes are open, and the smallest of their limits. `Unfolded` is a
description that needs no counter, since it has no lazy nodes. In the
place of one stands either a copy of its target, or a node that fails.
`Family.unfold` makes one from a schema by copying each target into its
lazy nodes, as often as the limits allow.

The main result is that a schema and its unfolding have the same validator.
-/


namespace Conform

/-- A description of values without lazy nodes. -/
inductive Unfolded where
  | text (rule : TextRule) (modifiers : Modifiers String)
  | number (rule : NumberRule) (modifiers : Modifiers Binary64)
  | boolean (rule : BooleanRule) (modifiers : Modifiers Bool)
  | date (rule : DateRule) (modifiers : Modifiers Instant)
  | enumeration (rule : EnumerationRule) (modifiers : Modifiers Value)
  | object (shape : ObjectShape Unfolded)
  | array (item : Unfolded) (rule : ArrayRule) (modifiers : Modifiers (List Value))
  | tuple (kind : TupleKind) (items : List Unfolded) (modifiers : Modifiers (List Value))
  | union (alternatives : List Unfolded) (modifiers : Modifiers Value)
  | optional (inner : Unfolded) (modifiers : Modifiers Value)
  /-- A lazy node with its target in place. -/
  | resolved (target : Unfolded) (modifiers : Modifiers Value)
  /-- A lazy node that exceeds the limit in force. -/
  | exhausted (limit : Nat) (modifiers : Modifiers Value)

namespace Unfolded

mutual

/-- The validator of a description. It depends on nothing but the current day. -/
def validator (today : Int) : Unfolded → Validator
  | text rule modifiers => modifiers.validator (rule.check modifiers.strict) .string
  | number rule modifiers => modifiers.validator (rule.check modifiers.strict) Binary64.toValue
  | boolean rule modifiers => modifiers.validator (rule.check modifiers.strict) .boolean
  | date rule modifiers =>
    modifiers.validator (rule.check today modifiers.strict) Schema.dateValue
  | enumeration rule modifiers => modifiers.validator (rule.check modifiers.strict) id
  | object ⟨fields, unknownKeys, typeMessage, modifiers⟩ =>
    ObjectShape.validator ⟨fieldValidators today fields, unknownKeys, typeMessage, modifiers⟩
  | array item rule modifiers => .array rule modifiers (validator today item)
  | tuple kind items modifiers => .tuple kind modifiers (validators today items)
  | union alternatives modifiers => .union modifiers (validators today alternatives)
  | optional inner modifiers => .optional modifiers (validator today inner)
  | resolved target modifiers => modifiers.validator (validator today target).present id
  | exhausted limit modifiers =>
    modifiers.validator (fun value path => Checked.fail (Family.depthIssue path limit value)) id

/-- The validators of a list of descriptions. -/
def validators (today : Int) : List Unfolded → List Validator
  | [] => []
  | u :: rest => validator today u :: validators today rest

/-- The validators of the fields of an object. -/
def fieldValidators (today : Int) : List (String × Unfolded) → List (String × Validator)
  | [] => []
  | (name, u) :: rest => (name, validator today u) :: fieldValidators today rest

end

theorem validators_eq_map (today : Int) (items : List Unfolded) :
    validators today items = items.map (validator today) := by
  induction items with
  | nil => rfl
  | cons u rest ih => rw [validators, ih, List.map_cons]

theorem fieldValidators_eq_map (today : Int) (fields : List (String × Unfolded)) :
    fieldValidators today fields = fields.map fun field => (field.1, field.2.validator today) := by
  induction fields with
  | nil => rfl
  | cons field rest ih =>
    obtain ⟨name, u⟩ := field
    rw [fieldValidators, ih, List.map_cons]

end Unfolded

/-! ## Replacing the lazy nodes of one schema -/

namespace Schema

/-- What takes the place of a lazy node with a target, a limit and modifiers. -/
abbrev Expansion := Deferred → Nat → Modifiers Value → Unfolded

mutual

/-- The schema with its lazy nodes replaced. -/
def expand (replace : Expansion) : Schema → Unfolded
  | text rule modifiers => .text rule modifiers
  | number rule modifiers => .number rule modifiers
  | boolean rule modifiers => .boolean rule modifiers
  | date rule modifiers => .date rule modifiers
  | enumeration rule modifiers => .enumeration rule modifiers
  | object ⟨fields, unknownKeys, typeMessage, modifiers⟩ =>
    .object ⟨expandFields replace fields, unknownKeys, typeMessage, modifiers⟩
  | array item rule modifiers => .array (expand replace item) rule modifiers
  | tuple kind items modifiers => .tuple kind (expandAll replace items) modifiers
  | union alternatives modifiers => .union (expandAll replace alternatives) modifiers
  | optional inner modifiers => .optional (expand replace inner) modifiers
  | lazy target limit modifiers => replace target limit modifiers

/-- The schemas of a list with their lazy nodes replaced. -/
def expandAll (replace : Expansion) : List Schema → List Unfolded
  | [] => []
  | s :: rest => expand replace s :: expandAll replace rest

/-- The fields of an object with their lazy nodes replaced. -/
def expandFields (replace : Expansion) : List (String × Schema) → List (String × Unfolded)
  | [] => []
  | (name, s) :: rest => (name, expand replace s) :: expandFields replace rest

end

theorem expandAll_eq_map (replace : Expansion) (items : List Schema) :
    expandAll replace items = items.map (expand replace) := by
  induction items with
  | nil => rfl
  | cons s rest ih => rw [expandAll, ih, List.map_cons]

theorem expandFields_eq_map (replace : Expansion) (fields : List (String × Schema)) :
    expandFields replace fields = fields.map fun field => (field.1, field.2.expand replace) := by
  induction fields with
  | nil => rfl
  | cons field rest ih =>
    obtain ⟨name, s⟩ := field
    rw [expandFields, ih, List.map_cons]

/-- The child of a composite does the same with its lazy nodes replaced. -/
def Expands (env : Env) (replace : Expansion) (s : Schema) : Prop :=
  (s.expand replace).validator env.today = s.validator env

theorem validators_expandAll {env : Env} {replace : Expansion} {items : List Schema}
    (h : ∀ child ∈ items, child.Expands env replace) :
    Unfolded.validators env.today (expandAll replace items) = validators env items := by
  rw [Unfolded.validators_eq_map, expandAll_eq_map, validators_eq_map, List.map_map]
  exact List.map_congr_left h

theorem fieldValidators_expandFields {env : Env} {replace : Expansion}
    {fields : List (String × Schema)}
    (h : ∀ name child, (name, child) ∈ fields → child.Expands env replace) :
    Unfolded.fieldValidators env.today (expandFields replace fields) =
      fieldValidators env fields := by
  rw [Unfolded.fieldValidators_eq_map, expandFields_eq_map, fieldValidators_eq_map, List.map_map]
  refine List.map_congr_left fun field hfield => ?_
  exact congrArg (Prod.mk field.1) (h field.1 field.2 hfield)

/-- Where every replacement does what its lazy node does, so does the whole
schema. -/
theorem expands (env : Env) {replace : Expansion}
    (hreplace : ∀ target limit modifiers,
      (replace target limit modifiers).validator env.today =
        modifiers.validator (env.resolve target limit) id)
    (s : Schema) : s.Expands env replace := by
  induction Every.of_forall (fun _ => trivial) s with
  | text | number | boolean | date | enumeration => rfl
  | @object shape _ _ ih =>
    obtain ⟨fields, unknownKeys, typeMessage, modifiers⟩ := shape
    rw [Expands, expand, Unfolded.validator, fieldValidators_expandFields ih, validator]
  | array _ _ ih => rw [Expands, expand, Unfolded.validator, ih, validator]
  | tuple _ _ ih => rw [Expands, expand, Unfolded.validator, validators_expandAll ih, validator]
  | union _ _ ih => rw [Expands, expand, Unfolded.validator, validators_expandAll ih, validator]
  | optional _ _ ih => rw [Expands, expand, Unfolded.validator, ih, validator]
  | lazy => exact hreplace _ _ _

end Schema

/-! ## Unfolding a family -/

namespace Family

/-- What a lazy node stands for inside a number of others: its target, unfolded
one level deeper, or the failure to go there. -/
def unfoldLazy (family : Family) (scope : Scope) (target : Deferred) (limit : Nat)
    (modifiers : Modifiers Value) : Unfolded :=
  if scope.depth < scope.limitAt limit then
    .resolved ((family target).expand fun target' limit' modifiers' =>
      unfoldLazy family (scope.enter limit) target' limit' modifiers') modifiers
  else .exhausted (scope.limitAt limit) modifiers
termination_by scope.remaining
decreasing_by exact Scope.remaining_enter_lt ‹_›

/-- A schema with its lazy nodes unfolded. -/
def unfold (family : Family) (scope : Scope) (s : Schema) : Unfolded :=
  s.expand (family.unfoldLazy scope)

theorem validator_unfoldLazy (family : Family) (today : Int) (scope : Scope) (target : Deferred)
    (limit : Nat) (modifiers : Modifiers Value) :
    (family.unfoldLazy scope target limit modifiers).validator today =
      modifiers.validator (family.resolve today scope target limit) id := by
  -- the replacements inside a target are those of the scope one level deeper
  induction hn : scope.remaining using Nat.strongRecOn generalizing scope target limit modifiers with
  | ind n ih =>
    subst hn
    rw [unfoldLazy]
    by_cases hdepth : scope.depth < scope.limitAt limit
    · rw [if_pos hdepth, Unfolded.validator, resolve_of_lt hdepth]
      have htarget := Schema.expands (family.env today (scope.enter limit))
        (fun target' limit' modifiers' =>
          ih _ (Scope.remaining_enter_lt hdepth) (scope.enter limit) target' limit' modifiers' rfl)
        (family target)
      exact congrArg (fun v : Validator => modifiers.validator v.present id) htarget
    · rw [if_neg hdepth, Unfolded.validator]
      congr 1
      funext value path
      exact (resolve_of_not_lt hdepth value path).symm

/-- **The counter is an unfolding.** Inside any number of lazy nodes, a schema
does what its unfolding does. -/
theorem validator_unfold (family : Family) (today : Int) (scope : Scope) (s : Schema) :
    (family.unfold scope s).validator today = s.validator (family.env today scope) :=
  Schema.expands (family.env today scope) (family.validator_unfoldLazy today scope) s

end Family

end Conform
