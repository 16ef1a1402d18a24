import Conform.SchemaFault
import Conform.Validator
/-!
# Object — the rule for objects

An `ObjectShape` declares fields in order. Every field is parsed with the
value of its key, or as absent if the key is missing, so the field decides
what a missing key means. The findings of all fields, followed by one
about undeclared keys where those are refused, come together in one
aggregate issue.

A shape is given over any type of children: schemas while it is built, and
validators when it is run. New shapes are derived from a shape by picking
fields, leaving fields out, extending, and making all fields optional;
they keep its mode and start with fresh modifiers.
-/


namespace Conform

/-- What happens to keys that are not declared. -/
inductive UnknownKeys where
  /-- They are reported. -/
  | strict
  /-- They are copied to the output. -/
  | loose
  /-- They are dropped. -/
  | strip
deriving DecidableEq, Repr, Inhabited

/-- The declared fields with their children, and how the rest is handled. -/
structure ObjectShape (σ : Type) where
  fields : List (String × σ) := []
  unknownKeys : UnknownKeys := .strict
  /-- The message for input that is not an object. -/
  typeMessage : Option String := none
  modifiers : Modifiers Members := {}

namespace ObjectShape

variable {σ τ : Type}

instance : Inhabited (ObjectShape σ) := ⟨{}⟩

/-! ## Building -/

/-- Sets the child of a name: in place if it is declared, at the end otherwise. -/
def putField (fields : List (String × σ)) (name : String) (child : σ) : List (String × σ) :=
  match fields with
  | [] => [(name, child)]
  | (key, old) :: rest =>
    if key = name then (key, child) :: rest else (key, old) :: putField rest name child

/-- Declares a field. -/
def field (s : ObjectShape σ) (name : String) (child : σ) : ObjectShape σ :=
  { s with fields := putField s.fields name child }

/-- The names of the fields in order. -/
def keys (s : ObjectShape σ) : List String := s.fields.map Prod.fst

/-- The child of a name. -/
def child? (s : ObjectShape σ) (name : String) : Option σ := s.fields.lookup name

def declares (s : ObjectShape σ) (name : String) : Bool := s.keys.contains name

/-- A shape with these fields and this mode and nothing else. -/
def fresh (fields : List (String × σ)) (unknownKeys : UnknownKeys) : ObjectShape σ :=
  { fields, unknownKeys }

/-- The shape of a list of fields with different names. -/
def ofFields (fields : List (String × σ)) : Except SchemaFault (ObjectShape σ) :=
  go [] fields
where
  /-- Adds the fields one by one behind those already added. -/
  go (before : List (String × σ)) : List (String × σ) → Except SchemaFault (ObjectShape σ)
    | [] => .ok (fresh before .strict)
    | (name, child) :: rest =>
      if (before.map Prod.fst).contains name then .error (.duplicateField name)
      else go (before ++ [(name, child)]) rest

def withMode (s : ObjectShape σ) (mode : UnknownKeys) : ObjectShape σ :=
  { s with unknownKeys := mode }

/-- Gives a message for input that is not an object. -/
def withMessage (s : ObjectShape σ) (message : String) : ObjectShape σ :=
  { s with typeMessage := some message }

/-! ## Derived shapes -/

/-- Only the named fields, in the order in which they are named. -/
def pick (s : ObjectShape σ) (names : List String) : Except SchemaFault (ObjectShape σ) :=
  go [] names
where
  /-- Adds the named fields one by one to those already picked. -/
  go (picked : List (String × σ)) : List String → Except SchemaFault (ObjectShape σ)
    | [] => .ok (fresh picked s.unknownKeys)
    | name :: rest =>
      match s.child? name with
      | some child => go (putField picked name child) rest
      | none => .error (.unknownField name)

/-- All fields but the named ones. -/
def without (s : ObjectShape σ) (names : List String) : ObjectShape σ :=
  fresh (s.fields.filter fun field => !names.contains field.1) s.unknownKeys

/-- The fields of both shapes; where both declare a name, the child of `other`. -/
def extend (s other : ObjectShape σ) : ObjectShape σ :=
  fresh (other.fields.foldl (fun fields field => putField fields field.1 field.2) s.fields)
    s.unknownKeys

/-- The same fields with other children. -/
def mapChildren (s : ObjectShape σ) (f : σ → τ) : ObjectShape τ :=
  { s with fields := s.fields.map fun field => (field.1, f field.2) }

/-- All fields made optional by `optional`. -/
def asPartial (s : ObjectShape σ) (optional : σ → σ) : ObjectShape σ :=
  fresh (s.mapChildren optional).fields s.unknownKeys

/-! ## Checking -/

/-- The members of an object that are not declared. -/
def unknownMembers (s : ObjectShape σ) (members : Members) : Members :=
  members.filter fun member => !s.declares member.1

/-- The issue that lists undeclared keys. -/
def unknownKeysIssue (path : Path) (keys : List String) : Issue :=
  .refinement path "unrecognized_keys"
    ("Unexpected keys: " ++ ", ".intercalate (keys.map fun key => "\"" ++ key ++ "\""))
    (.array (keys.map .string))

/-- The findings about undeclared keys. -/
def unknownIssues (s : ObjectShape σ) (unknown : Members) (path : Path) : List Issue :=
  match s.unknownKeys, unknown with
  | .strict, _ :: _ => [unknownKeysIssue path unknown.keys]
  | _, _ => []

/-- What undeclared members contribute to the output. -/
def unknownOutput (s : ObjectShape σ) (unknown : Members) : Members :=
  match s.unknownKeys with
  | .loose => unknown
  | _ => []

/-- The result of every field, in order. -/
def fieldResults (s : ObjectShape Validator) (members : Members) (path : Path) :
    List (String × Checked (Option Value)) :=
  s.fields.map fun (name, child) => (name, child.parse (members.get? name) (path.field name))

/-- The issue of an object with findings. -/
def failure (path : Path) (value : Value) (sub : Issues) : Issue :=
  .aggregate path s!"Object validation failed with {sub.length} issue(s)" value sub

/-- The fields that have an output, with it. -/
def fieldOutputs (results : List (String × Checked (Option Value))) : Members :=
  results.filterMap fun (name, result) =>
    match result with
    | .ok (some output) => some (name, output)
    | _ => none

/-- The findings of all fields. -/
def fieldIssues (results : List (String × Checked (Option Value))) : List Issue :=
  results.flatMap fun (_, result) => result.issues

/-- The result for an object from the results of its fields. -/
def conclude (s : ObjectShape σ) (members : Members) (path : Path)
    (results : List (String × Checked (Option Value))) : Checked Members :=
  let unknown := s.unknownMembers members
  (Checked.settle (fieldOutputs results ++ s.unknownOutput unknown)
    (fieldIssues results ++ s.unknownIssues unknown path)).wrap (failure path (.object members))

/-- The failure of input that is not an object. -/
def mismatch (s : ObjectShape σ) (value : Value) (path : Path) : Checked Members :=
  Checked.fail ((Issue.typeMismatch path "object" value).reworded s.typeMessage)

/-- Parses an object field by field. -/
def check (s : ObjectShape Validator) (value : Value) (path : Path) : Checked Members :=
  match value with
  | .object members => s.conclude members path (s.fieldResults members path)
  | _ => s.mismatch value path

/-- The validator of a shape. -/
def validator (s : ObjectShape Validator) : Validator := s.modifiers.validator s.check .object

end ObjectShape

end Conform
