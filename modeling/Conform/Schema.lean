import Conform.Rule.Array
import Conform.Rule.Boolean
import Conform.Rule.Date
import Conform.Rule.Enumeration
import Conform.Rule.Number
import Conform.Rule.Object
import Conform.Rule.Text
import Conform.Rule.Tuple
import Conform.Rule.Union
/-!
# Schema — descriptions of values

A `Schema` is a tree of rules with their modifiers. Strings, numbers,
booleans, dates and enumerations are its leaves. A `lazy` node stands for
a definition by name, so that a family of definitions can be recursive;
its limit bounds how many lazy nodes may be open inside each other,
counting this one. A handle marks lazy nodes that share one target.

`Schema.validator` gives a schema its meaning: a fold over the tree that
combines the validators of the children. What a lazy node does with
present input is left to the `Env`.
-/


namespace Conform

/-- What a lazy node refers to. -/
structure Deferred where
  name : String
  /-- Nodes with the same handle share their target. -/
  handle : Option Nat := none
deriving DecidableEq, Repr, Inhabited

/-- The limit of a lazy node that states no other. -/
def defaultDepth : Nat := 128

/-- A description of values. -/
inductive Schema where
  | text (rule : TextRule) (modifiers : Modifiers String)
  | number (rule : NumberRule) (modifiers : Modifiers Binary64)
  | boolean (rule : BooleanRule) (modifiers : Modifiers Bool)
  | date (rule : DateRule) (modifiers : Modifiers Instant)
  | enumeration (rule : EnumerationRule) (modifiers : Modifiers Value)
  | object (shape : ObjectShape Schema)
  | array (item : Schema) (rule : ArrayRule) (modifiers : Modifiers (List Value))
  | tuple (kind : TupleKind) (items : List Schema) (modifiers : Modifiers (List Value))
  | union (alternatives : List Schema) (modifiers : Modifiers Value)
  | optional (inner : Schema) (modifiers : Modifiers Value)
  | lazy (target : Deferred) (limit : Nat) (modifiers : Modifiers Value)

instance : Inhabited Schema := ⟨.boolean {} {}⟩

/-- What the meaning of a schema depends on: the current day, and what lazy
nodes do with present input. -/
structure Env where
  /-- The number of the current day. -/
  today : Int
  /-- The step of a lazy node with a limit. -/
  resolve : Deferred → Nat → Value → Path → Checked Value

namespace Schema

/-! ## Building -/

/-- The union of at least one alternative. -/
def ofAlternatives (alternatives : List Schema) : Except SchemaFault Schema :=
  match alternatives with
  | [] => .error .emptyUnion
  | _ => .ok (.union alternatives {})

/-- The schema that accepts absence around another. -/
def orAbsent (inner : Schema) : Schema := .optional inner { optional := true }

/-- A lazy node with the default limit. -/
def deferred (target : Deferred) : Schema := .lazy target defaultDepth {}

/-! ## Meaning -/

/-- A date as a value. -/
def dateValue (t : Instant) : Value := .string t.text

mutual

/-- The validator of a schema. -/
def validator (env : Env) : Schema → Validator
  | text rule modifiers => modifiers.validator (rule.check modifiers.strict) .string
  | number rule modifiers => modifiers.validator (rule.check modifiers.strict) Binary64.toValue
  | boolean rule modifiers => modifiers.validator (rule.check modifiers.strict) .boolean
  | date rule modifiers =>
    modifiers.validator (rule.check env.today modifiers.strict) dateValue
  | enumeration rule modifiers => modifiers.validator (rule.check modifiers.strict) id
  | object ⟨fields, unknownKeys, typeMessage, modifiers⟩ =>
    ObjectShape.validator ⟨fieldValidators env fields, unknownKeys, typeMessage, modifiers⟩
  | array item rule modifiers => .array rule modifiers (validator env item)
  | tuple kind items modifiers => .tuple kind modifiers (validators env items)
  | union alternatives modifiers => .union modifiers (validators env alternatives)
  | optional inner modifiers => .optional modifiers (validator env inner)
  | lazy target limit modifiers => modifiers.validator (env.resolve target limit) id

/-- The validators of a list of schemas. -/
def validators (env : Env) : List Schema → List Validator
  | [] => []
  | s :: rest => validator env s :: validators env rest

/-- The validators of the fields of an object. -/
def fieldValidators (env : Env) : List (String × Schema) → List (String × Validator)
  | [] => []
  | (name, s) :: rest => (name, validator env s) :: fieldValidators env rest

end

end Schema

end Conform
