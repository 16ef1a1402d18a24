import Conform.Proofs.Node
/-!
# Findings — what is wrong with a value, as a flat list

A failed parse is a tree: an object relays its fields, a union its
alternatives. `Schema.findings` is the same information as a list, computed
by recursion on the schema and without any trees: what every part finds,
in the order of the parts. `Family.findingsEnv` goes through lazy nodes as
`Family.env` does, one level deeper for each and up to the limit.

Hooks are left out. They can report whatever they like, so there is nothing
to be said of them here.
-/


namespace Conform

/-- The issue of a check that reports one. -/
def Checked.issue? {α : Type} : Checked α → Option Issue
  | .ok _ => none
  | .error issues => some issues.first

/-- The findings about undeclared keys. -/
def UnknownKeys.findings (mode : UnknownKeys) (declared : List String) (members : Members)
    (path : Path) : List Issue :=
  match mode, members.keys.filter fun key => !declared.contains key with
  | .strict, key :: keys => [ObjectShape.unknownKeysIssue path (key :: keys)]
  | _, _ => []

/-- The findings of a union from those of its alternatives: none if one of them
has none, or else all. A union without alternatives, which stands for a name
without a definition, accepts nothing. -/
def Union.findings (value : Value) (path : Path) (ofAlternatives : List (List Issue)) :
    List Issue :=
  if ofAlternatives.isEmpty then [failure 0 path value []]
  else if ofAlternatives.any List.isEmpty then [] else ofAlternatives.flatten

/-- What the findings of a schema depend on: its environment, and the findings
of lazy nodes about present input. -/
structure FindingsEnv extends Env where
  deferred : Deferred → Nat → Value → Path → List Issue

namespace Schema

mutual

/-- The findings of a schema about present input. -/
def findings (env : FindingsEnv) : Schema → Value → Path → List Issue
  | text rule modifiers, value, path => (rule.check modifiers.strict value path).issue?.toList
  | number rule modifiers, value, path => (rule.check modifiers.strict value path).issue?.toList
  | boolean rule modifiers, value, path => (rule.check modifiers.strict value path).issue?.toList
  | date rule modifiers, value, path =>
    (rule.check env.today modifiers.strict value path).issue?.toList
  | enumeration rule modifiers, value, path =>
    (rule.check modifiers.strict value path).issue?.toList
  | object ⟨fields, unknownKeys, typeMessage, _⟩, value, path =>
    match value with
    | .object members =>
      fieldFindings env fields members path ++
        unknownKeys.findings (fields.map Prod.fst) members path
    | _ => [(Issue.typeMismatch path "object" value).reworded typeMessage]
  | array item rule _, value, path =>
    match value with
    | .array items =>
      let ofElements := items.zipIdx.flatMap fun (x, i) => findings env item x (path.index i)
      -- repetitions are a matter of the parsed elements, not of the input
      let outputs := ((item.validator env.toEnv).onItems items path).filterMap Checked.output?
      rule.lengthIssues items.length value path ++
        if ofElements.isEmpty then rule.uniquenessIssues outputs value path else ofElements
    | _ => [(Issue.typeMismatch path "array" value).reworded rule.typeMessage]
  | tuple _ items _, value, path =>
    match value with
    | .array values =>
      if values.length = items.length then positionFindings env items values 0 path
      else [Tuple.lengthIssue items.length values path]
    | _ => [.typeMismatch path "array" value]
  | union alternatives _, value, path =>
    Union.findings value path (alternativeFindings env alternatives value path)
  | optional inner _, value, path => findings env inner value path
  | lazy target limit _, value, path => env.deferred target limit value path

/-- The findings of fields, each about the value of its key. -/
def fieldFindings (env : FindingsEnv) : List (String × Schema) → Members → Path → List Issue
  | [], _, _ => []
  | (name, s) :: rest, members, path =>
    (match members.get? name with
      | some value => findings env s value (path.field name)
      | none => s.missing (path.field name)) ++ fieldFindings env rest members path

/-- The findings of positions, from position `i` on. -/
def positionFindings (env : FindingsEnv) : List Schema → List Value → Nat → Path → List Issue
  | s :: rest, value :: values, i, path =>
    findings env s value (path.index i) ++ positionFindings env rest values (i + 1) path
  | _, _, _, _ => []

/-- The findings of every alternative. -/
def alternativeFindings (env : FindingsEnv) : List Schema → Value → Path → List (List Issue)
  | [], _, _ => []
  | s :: rest, value, path => findings env s value path :: alternativeFindings env rest value path

end

/-- The findings about possibly absent input. -/
def inputFindings (env : FindingsEnv) (s : Schema) : Option Value → Path → List Issue
  | some value, path => s.findings env value path
  | none, path => s.missing path

theorem fieldFindings_eq_flatMap (env : FindingsEnv) (fields : List (String × Schema))
    (members : Members) (path : Path) :
    fieldFindings env fields members path = fields.flatMap fun field =>
      field.2.inputFindings env (members.get? field.1) (path.field field.1) := by
  induction fields with
  | nil => rfl
  | cons field rest ih =>
    obtain ⟨name, s⟩ := field
    rw [fieldFindings, ih, List.flatMap_cons]
    cases members.get? name <;> rfl

theorem alternativeFindings_eq_map (env : FindingsEnv) (alternatives : List Schema)
    (value : Value) (path : Path) :
    alternativeFindings env alternatives value path =
      alternatives.map fun s => s.findings env value path := by
  induction alternatives with
  | nil => rfl
  | cons s rest ih => rw [alternativeFindings, ih, List.map_cons]

end Schema

namespace Family

/-- The findings of a lazy node about present input: those of its target one
level deeper, or that the limit in force is exceeded. -/
def deferredFindings (family : Family) (today : Int) (scope : Scope) (target : Deferred)
    (limit : Nat) (value : Value) (path : Path) : List Issue :=
  if scope.depth < scope.limitAt limit then
    let inner : FindingsEnv := ⟨family.env today (scope.enter limit),
      fun target' limit' value path =>
        deferredFindings family today (scope.enter limit) target' limit' value path⟩
    (family target).findings inner value path
  else [depthIssue path (scope.limitAt limit) value]
termination_by scope.remaining
decreasing_by exact Scope.remaining_enter_lt ‹_›

/-- What findings depend on inside a number of lazy nodes. -/
def findingsEnv (family : Family) (today : Int) (scope : Scope) : FindingsEnv :=
  ⟨family.env today scope, family.deferredFindings today scope⟩

end Family

end Conform
