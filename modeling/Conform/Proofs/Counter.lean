import Conform.Proofs.Composite
import Conform.Proofs.Unfolding
/-!
# Counter — the depth kept in one place

`Family.validator` gives every part of a schema the scope it is in. Here the
scope is a counter in one place that all parts share: a lazy node moves
it, walks its target, and moves it back, and the other nodes visit their
parts one after the other without a look at it. A part that left the
counter moved would be felt by all parts after it.

The main result is that no part does. A walk has the result of the
unfolded schema and ends with the counter it began with, whether it
passes, fails, or is stopped by a limit.
-/


namespace Conform

/-! ## Computations on the counter -/

/-- A computation that reads and moves the counter. It has no result when its
clock runs out. -/
abbrev Counting : Type → Type := StateT Scope Option

namespace Counting

variable {α β : Type} {scope : Scope}

/-- Begun at a scope, the computation has this result and ends there again. -/
def Yields (scope : Scope) (m : Counting α) (a : α) : Prop := m scope = some (a, scope)

theorem yields_pure (a : α) : Yields scope (pure a) a := rfl

theorem Yields.bind {m : Counting α} {f : α → Counting β} {a : α} {b : β}
    (hm : Yields scope m a) (hf : Yields scope (f a) b) : Yields scope (m >>= f) b := by
  -- the second computation begins where the first ended, which is the same scope
  show (m scope).bind (fun r => f r.1 r.2) = some (b, scope)
  rw [hm]
  exact hf

theorem yields_get : Yields scope get scope := rfl

/-- Runs a computation from another scope, and puts the counter back. -/
def within (inner : Scope) (m : Counting α) : Counting α := do
  let previous ← get
  set inner
  let result ← m
  set previous
  return result

theorem Yields.within {inner : Scope} {m : Counting α} {a : α} (h : Yields inner m a) :
    Yields scope (Counting.within inner m) a := by
  show ((m inner).bind fun r => some (r.1, scope)) = some (a, scope)
  rw [h]
  rfl

/-- Parts that each restore the counter restore it together. -/
theorem yields_mapM {f : α → Counting β} {g : α → β} {list : List α}
    (h : ∀ a ∈ list, Yields scope (f a) (g a)) : Yields scope (list.mapM f) (list.map g) := by
  induction list with
  | nil => rfl
  | cons a rest ih =>
    rw [List.mapM_cons, List.map_cons]
    have hrest := ih fun b hb => h b (List.mem_cons_of_mem a hb)
    exact (h a List.mem_cons_self).bind (hrest.bind (yields_pure _))

end Counting

/-- What becomes of absent input, which no lazy node resolves, and of present
input, which may move the counter. -/
structure Walker where
  absent : Path → Checked (Option Value)
  present : Value → Path → Counting (Checked Value)

/-! ## Walking the composites -/

/-- The walker of a step with its modifiers. -/
def Modifiers.walker {α : Type} (m : Modifiers α) (step : Value → Path → Counting (Checked α))
    (toValue : α → Value) : Walker where
  absent path := (m.absent path).map fun output => output.map toValue
  present value path := do
    let result ← step (m.prepared value) path
    return (m.conclude path result).map toValue

/-- The walker of a step that does not see the counter. -/
def Modifiers.still {α : Type} (m : Modifiers α) (step : Value → Path → Checked α)
    (toValue : α → Value) : Walker :=
  m.walker (fun value path => pure (step value path)) toValue

namespace Walker

/-- Possibly absent input at a path. -/
def parse (w : Walker) : Option Value → Path → Counting (Checked (Option Value))
  | some value, path => do
    let result ← w.present value path
    return result.map some
  | none, path => pure (w.absent path)

/-- Visits the fields of an object in order. -/
def fieldResults (fields : List (String × Walker)) (members : Members) (path : Path) :
    Counting (List (String × Checked (Option Value))) :=
  fields.mapM fun (name, child) => do
    let result ← child.parse (Members.get? members name) (path.field name)
    return (name, result)

def object (s : ObjectShape Walker) : Walker :=
  s.modifiers.walker (fun value path =>
    match value with
    | .object members => do
      let results ← fieldResults s.fields members path
      return s.conclude members path results
    | _ => pure (s.mismatch value path)) .object

/-- Visits the elements of an array in order. -/
def onItems (w : Walker) (items : List Value) (path : Path) : Counting (List (Checked Value)) :=
  items.zipIdx.mapM fun (item, i) => w.present item (path.index i)

def array (r : ArrayRule) (modifiers : Modifiers (List Value)) (item : Walker) : Walker :=
  modifiers.walker (fun value path =>
    match value with
    | .array items => do
      let results ← item.onItems items path
      return r.conclude items path results
    | _ => pure (r.mismatch value path)) .array

/-- Visits the positions of a tuple in order. -/
def positions (children : List Walker) (items : List Value) (path : Path) :
    Counting (List (Checked Value)) :=
  (children.zip items).zipIdx.mapM fun ((child, item), i) => child.present item (path.index i)

def tuple (kind : TupleKind) (modifiers : Modifiers (List Value)) (children : List Walker) :
    Walker :=
  modifiers.walker (fun value path =>
    match value with
    | .array items =>
      if items.length = children.length then do
        let results ← positions children items path
        return Tuple.conclude kind items path results
      else pure (Checked.fail (Tuple.lengthIssue children.length items path))
    | _ => pure (Checked.fail (.typeMismatch path "array" value))) .array

/-- Visits the alternatives of a union up to the first that accepts. -/
def firstOutput : List Walker → Value → Path → Counting (Except (List Issue) Value)
  | [], _, _ => pure (.error [])
  | alternative :: rest, value, path => do
    match ← alternative.present value path with
    | .ok output => return .ok output
    | .error issues =>
      match ← firstOutput rest value path with
      | .ok output => return .ok output
      | .error others => return .error (issues.toList ++ others)

def union (modifiers : Modifiers Value) (alternatives : List Walker) : Walker :=
  modifiers.walker (fun value path => do
    let result ← firstOutput alternatives value path
    return Union.conclude alternatives.length value path result) id

/-- Visits what a wrapper is around. -/
def optional (modifiers : Modifiers Value) (inner : Walker) : Walker where
  absent path :=
    match modifiers.fallback with
    | some output => .ok (some output)
    | none => .ok (((inner.absent path).toOption).getD none)
  present := (modifiers.walker inner.present id).present

end Walker

/-! ## Walking a schema -/

/-- What the walker of a schema depends on: the current day, and how lazy nodes
are walked. -/
structure WalkEnv where
  today : Int
  resolve : Deferred → Nat → Value → Path → Counting (Checked Value)

namespace Schema

mutual

/-- The walker of a schema. -/
def walker (env : WalkEnv) : Schema → Walker
  | text rule modifiers => modifiers.still (rule.check modifiers.strict) .string
  | number rule modifiers => modifiers.still (rule.check modifiers.strict) Binary64.toValue
  | boolean rule modifiers => modifiers.still (rule.check modifiers.strict) .boolean
  | date rule modifiers => modifiers.still (rule.check env.today modifiers.strict) dateValue
  | enumeration rule modifiers => modifiers.still (rule.check modifiers.strict) id
  | object ⟨fields, unknownKeys, typeMessage, modifiers⟩ =>
    .object ⟨fieldWalkers env fields, unknownKeys, typeMessage, modifiers⟩
  | array item rule modifiers => .array rule modifiers (walker env item)
  | tuple kind items modifiers => .tuple kind modifiers (walkers env items)
  | union alternatives modifiers => .union modifiers (walkers env alternatives)
  | optional inner modifiers => .optional modifiers (walker env inner)
  | lazy target limit modifiers => modifiers.walker (env.resolve target limit) id

/-- The walkers of a list of schemas. -/
def walkers (env : WalkEnv) : List Schema → List Walker
  | [] => []
  | s :: rest => walker env s :: walkers env rest

/-- The walkers of the fields of an object. -/
def fieldWalkers (env : WalkEnv) : List (String × Schema) → List (String × Walker)
  | [] => []
  | (name, s) :: rest => (name, walker env s) :: fieldWalkers env rest

end

theorem walkers_eq_map (env : WalkEnv) (items : List Schema) :
    walkers env items = items.map (walker env) := by
  induction items with
  | nil => rfl
  | cons s rest ih => rw [walkers, ih, List.map_cons]

theorem fieldWalkers_eq_map (env : WalkEnv) (fields : List (String × Schema)) :
    fieldWalkers env fields = fields.map fun field => (field.1, field.2.walker env) := by
  induction fields with
  | nil => rfl
  | cons field rest ih =>
    obtain ⟨name, s⟩ := field
    rw [fieldWalkers, ih, List.map_cons]

end Schema

namespace Family

/-- Walks a lazy node: the counter is compared with the limit in force, moved
one level deeper for the target, and moved back. The clock counts the lazy
nodes that may be open inside each other. -/
def walkLazy (family : Family) (today : Int) :
    Nat → Deferred → Nat → Value → Path → Counting (Checked Value)
  | 0, _, _, _, _ => failure
  | clock + 1, target, limit, value, path => do
    let scope ← get
    if scope.depth < scope.limitAt limit then
      let env : WalkEnv := ⟨today, walkLazy family today clock⟩
      Counting.within (scope.enter limit) (((family target).walker env).present value path)
    else
      return Checked.fail (depthIssue path (scope.limitAt limit) value)

/-- How a schema is walked with a clock. -/
def walkEnv (family : Family) (today : Int) (clock : Nat) : WalkEnv :=
  ⟨today, family.walkLazy today clock⟩

end Family

/-! ## Every part restores the counter -/

/-- From the scope, the walker does what the validator does, and the counter is
there again afterwards. -/
structure Walker.Follows (scope : Scope) (w : Walker) (v : Validator) : Prop where
  absent : w.absent = v.absent
  present : ∀ value path, (w.present value path).Yields scope (v.present value path)

section Parts

variable {scope : Scope}

open Counting Walker

theorem Walker.Follows.parse {w : Walker} {v : Validator} (h : w.Follows scope v)
    (input : Option Value) (path : Path) : (w.parse input path).Yields scope (v.parse input path) := by
  cases input with
  | some value => exact (h.present value path).bind (yields_pure _)
  | none =>
    rw [Walker.parse, h.absent]
    exact yields_pure _

/-- Modifiers do not touch the counter. -/
theorem Modifiers.follows_walker {α : Type} (m : Modifiers α)
    {step : Value → Path → Counting (Checked α)} {step' : Value → Path → Checked α}
    (h : ∀ value path, (step value path).Yields scope (step' value path)) (toValue : α → Value) :
    (m.walker step toValue).Follows scope (m.validator step' toValue) where
  absent := rfl
  present value path := (h (m.prepared value) path).bind (yields_pure _)

theorem Modifiers.follows_still {α : Type} (m : Modifiers α) (step : Value → Path → Checked α)
    (toValue : α → Value) : (m.still step toValue).Follows scope (m.validator step toValue) :=
  m.follows_walker (fun _ _ => yields_pure _) toValue

/-- The child of a composite is walked as its validator does it. -/
def Schema.Walks (scope : Scope) (walk : WalkEnv) (env : Env) (s : Schema) : Prop :=
  (s.walker walk).Follows scope (s.validator env)

variable {walk : WalkEnv} {env : Env}

theorem Schema.walks_object {shape : ObjectShape Schema}
    (h : ∀ name child, (name, child) ∈ shape.fields → child.Walks scope walk env) :
    (object shape).Walks scope walk env := by
  obtain ⟨fields, unknownKeys, typeMessage, modifiers⟩ := shape
  rw [Walks, walker, validator, fieldWalkers_eq_map, fieldValidators_eq_map]
  refine modifiers.follows_walker (fun value path => ?_) .object
  cases value with
  | object members =>
    -- the results are put together by the names of the fields, which both shapes share
    let walked : ObjectShape Walker := ⟨fields.map fun field => (field.1, field.2.walker walk),
      unknownKeys, typeMessage, modifiers⟩
    let validated : ObjectShape Validator := ⟨fields.map fun field =>
      (field.1, field.2.validator env), unknownKeys, typeMessage, modifiers⟩
    have hkeys : walked.keys = validated.keys := by
      simp only [walked, validated, ObjectShape.keys, List.map_map, Function.comp_def]
    have hfields : (fieldResults walked.fields members path).Yields scope
        (validated.fieldResults members path) := by
      rw [fieldResults, ObjectShape.fieldResults, List.mapM_map, List.map_map]
      refine yields_mapM ?_
      rintro ⟨name, child⟩ hfield
      exact ((h name child hfield).parse _ _).bind (yields_pure _)
    refine hfields.bind ?_
    show Yields scope (pure (walked.conclude members path _)) (validated.conclude members path _)
    rw [ObjectShape.conclude_congr hkeys rfl]
    exact yields_pure _
  | _ => exact yields_pure _

theorem Schema.walks_array {item : Schema} {rule : ArrayRule} {modifiers : Modifiers (List Value)}
    (h : item.Walks scope walk env) : (array item rule modifiers).Walks scope walk env := by
  rw [Walks, walker, validator]
  refine modifiers.follows_walker (fun value path => ?_) .array
  cases value with
  | array items =>
    refine Yields.bind (yields_mapM ?_) (yields_pure _)
    rintro ⟨x, i⟩ -
    exact h.present x (path.index i)
  | _ => exact yields_pure _

theorem Schema.walks_tuple {kind : TupleKind} {items : List Schema}
    {modifiers : Modifiers (List Value)} (h : ∀ child ∈ items, child.Walks scope walk env) :
    (tuple kind items modifiers).Walks scope walk env := by
  rw [Walks, walker, validator, walkers_eq_map, validators_eq_map]
  refine modifiers.follows_walker (fun value path => ?_) .array
  cases value with
  | array values =>
    simp only [Tuple.check, List.length_map]
    by_cases hlength : values.length = items.length
    · rw [if_pos hlength, if_pos hlength]
      refine Yields.bind ?_ (yields_pure _)
      rw [positions, Tuple.positions, List.zip_map_left, List.zip_map_left, List.zipIdx_map,
        List.zipIdx_map, List.mapM_map, List.map_map]
      refine yields_mapM ?_
      rintro ⟨⟨child, x⟩, i⟩ hmem
      exact (h child (List.of_mem_zip (List.fst_mem_of_mem_zipIdx hmem)).1).present x (path.index i)
    · rw [if_neg hlength, if_neg hlength]
      exact yields_pure _
  | _ => exact yields_pure _

theorem Schema.yields_firstOutput {alternatives : List Schema}
    (h : ∀ child ∈ alternatives, child.Walks scope walk env) (value : Value) (path : Path) :
    (firstOutput (alternatives.map (walker walk)) value path).Yields scope
      (Union.firstOutput (alternatives.map (validator env)) value path) := by
  induction alternatives with
  | nil => exact yields_pure _
  | cons s rest ih =>
    rw [List.map_cons, List.map_cons, firstOutput, Union.firstOutput]
    refine Yields.bind ((h s List.mem_cons_self).present value path) ?_
    cases (s.validator env).present value path with
    | ok output => exact yields_pure _
    | error issues =>
      refine Yields.bind (ih fun child hchild => h child (List.mem_cons_of_mem s hchild)) ?_
      cases Union.firstOutput (rest.map (validator env)) value path <;> exact yields_pure _

theorem Schema.walks_union {alternatives : List Schema} {modifiers : Modifiers Value}
    (h : ∀ child ∈ alternatives, child.Walks scope walk env) :
    (union alternatives modifiers).Walks scope walk env := by
  rw [Walks, walker, validator, walkers_eq_map, validators_eq_map]
  refine modifiers.follows_walker (fun value path => ?_) id
  rw [Union.check, List.length_map, List.length_map]
  exact (yields_firstOutput h value path).bind (yields_pure _)

theorem Schema.walks_optional {inner : Schema} {modifiers : Modifiers Value}
    (h : inner.Walks scope walk env) : (optional inner modifiers).Walks scope walk env where
  absent := by
    funext path
    cases hfallback : modifiers.fallback <;>
      simp only [walker, validator, Walker.optional, Validator.optional, hfallback, h.absent]
  present := (modifiers.follows_walker h.present id).present

/-- Where lazy nodes restore the counter, every schema does. -/
theorem Schema.walks (hlazy : ∀ target limit value path,
      (walk.resolve target limit value path).Yields scope (env.resolve target limit value path))
    (htoday : walk.today = env.today) (s : Schema) : s.Walks scope walk env := by
  induction Every.of_forall (fun _ => trivial) s with
  | text => exact Modifiers.follows_still ..
  | number => exact Modifiers.follows_still ..
  | boolean => exact Modifiers.follows_still ..
  | date =>
    rw [Walks, walker, validator, htoday]
    exact Modifiers.follows_still ..
  | enumeration => exact Modifiers.follows_still ..
  | object _ _ ih => exact walks_object ih
  | array _ _ ih => exact walks_array ih
  | tuple _ _ ih => exact walks_tuple ih
  | union _ _ ih => exact walks_union ih
  | optional _ _ ih => exact walks_optional ih
  | @lazy target limit modifiers => exact modifiers.follows_walker (hlazy target limit) id

end Parts

namespace Family

variable {family : Family} {today : Int}

/-- A lazy node puts the counter back, however its target ends. -/
theorem yields_walkLazy {clock : Nat} {scope : Scope} (hclock : scope.remaining < clock)
    (target : Deferred) (limit : Nat) (value : Value) (path : Path) :
    (family.walkLazy today clock target limit value path).Yields scope
      (family.resolve today scope target limit value path) := by
  -- every level of depth costs one tick, and the clock outlasts what remains
  induction clock generalizing scope target limit value path with
  | zero => omega
  | succ clock ih =>
    rw [walkLazy]
    refine Counting.yields_get.bind ?_
    by_cases hdepth : scope.depth < scope.limitAt limit
    · have hinner : (scope.enter limit).remaining < clock := by
        have := Scope.remaining_enter_lt hdepth
        omega
      have htarget : (family target).Walks (scope.enter limit) (family.walkEnv today clock)
          (family.env today (scope.enter limit)) := Schema.walks (ih hinner) rfl (family target)
      rw [if_pos hdepth, resolve_of_lt hdepth]
      exact (htarget.present value path).within
    · rw [if_neg hdepth, resolve_of_not_lt hdepth]
      exact Counting.yields_pure _

end Family

/-! ## Counters that lazy nodes leave behind -/

namespace Scope

/-- Inside lazy nodes with these limits, from the outermost to the innermost. -/
def inside (limits : List Nat) : Scope := limits.foldl enter outside

theorem depth_foldl_enter (scope : Scope) (limits : List Nat) :
    (limits.foldl enter scope).depth = scope.depth + limits.length := by
  induction limits generalizing scope with
  | nil => rfl
  | cons limit rest ih =>
    rw [List.foldl_cons, ih, List.length_cons]
    exact Nat.add_right_comm scope.depth 1 rest.length

theorem limit_foldl_enter (scope : Scope) (limits : List Nat) :
    (limits.foldl enter scope).limit = limits.foldl min scope.limit := by
  induction limits generalizing scope with
  | nil => rfl
  | cons limit rest ih => rw [List.foldl_cons, ih, List.foldl_cons, enter, limitAt]

end Scope

namespace Family

/-- **The counter implements the unfolding.** A schema does outside of all lazy
nodes what its unfolding does. Inside open lazy nodes, whose limits are
listed, a walk with one shared counter also does what the unfolding for
that scope does, and it ends with the counter it began with, so no part
feels what another did. The counter stands at the number of open nodes, and
the limit in force is the smallest of theirs and the node's own. -/
theorem parse_eq_parse_unfold (family : Family) (today : Int) (s : Schema)
    (input : Option Value) (path : Path) :
    (family.validator today s).parse input path =
        ((family.unfold .outside s).validator today).parse input path ∧
      ∀ limits : List Nat,
        let scope := Scope.inside limits
        (∀ more, ((s.walker (family.walkEnv today (scope.remaining + 1 + more))).parse input
            path).run scope =
          some (((family.unfold scope s).validator today).parse input path, scope)) ∧
        scope.depth = limits.length ∧
        ∀ limit, scope.limitAt limit = (limits ++ [limit]).foldl min Scope.outside.limit := by
  refine ⟨?_, fun limits => ⟨fun more => ?_, ?_, fun limit => ?_⟩⟩
  · rw [validator_unfold]
    rfl
  · rw [validator_unfold]
    exact (Schema.walks (yields_walkLazy (by omega)) rfl s).parse input path
  · rw [Scope.inside, Scope.depth_foldl_enter, Scope.outside, Nat.zero_add]
  · rw [Scope.limitAt, Scope.inside, Scope.limit_foldl_enter, List.foldl_append]
    rfl

end Family

end Conform
