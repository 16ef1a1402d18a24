import Conform.Validator
import Conform.Value.Text
/-!
# Array — the rule for arrays of one kind

Every element is parsed with the same child. Constraints on the length look
at the input and report beside the aggregate of the elements' findings.
Constraints on uniqueness look at the parsed elements, and only if all of
them passed. Elements, or keys computed from them, are told apart by their
written form.

Removing duplicates keeps the first element of each written form.
-/


namespace Conform

/-- What can be required of an array. -/
inductive ArrayConstraint where
  | minLength (bound : Nat)
  | maxLength (bound : Nat)
  | length (bound : Nat)
  | unique
  | uniqueBy (key : Value → Value)

/-- The constraints of an array, each with its own message. -/
structure ArrayRule where
  constraints : List (ArrayConstraint × Option String) := []
  dedupe : Bool := false
  /-- The message for input that is not an array. -/
  typeMessage : Option String := none

instance : Inhabited ArrayRule := ⟨{}⟩

/-! ## Duplicates -/

/-- Adds an index to the group of its key; a new key starts a group at the end. -/
def addToGroup (groups : List (String × List Nat)) (key : String) (index : Nat) :
    List (String × List Nat) :=
  match groups with
  | [] => [(key, [index])]
  | (k, indices) :: rest =>
    if k = key then (k, indices ++ [index]) :: rest
    else (k, indices) :: addToGroup rest key index

/-- The indices of a list of keys, grouped by key in the order of their first
occurrence. -/
def groupIndices (keys : List String) : List (String × List Nat) :=
  keys.zipIdx.foldl (fun groups (key, index) => addToGroup groups key index) []

/-- The groups of indices with equal keys that have at least two members. -/
def findDuplicates (keys : List String) : List (List Nat) :=
  ((groupIndices keys).map Prod.snd).filter fun indices => 1 < indices.length

/-- The items whose index is no later member of a group of duplicates. -/
def dropDuplicates {α : Type} (items : List α) (keys : List String) : List α :=
  let later := (findDuplicates keys).flatMap fun indices => indices.drop 1
  (items.zipIdx.filter fun (_, index) => !later.contains index).map Prod.fst

namespace ArrayConstraint

/-- A list of indices as it stands in a message. -/
def indicesText (indices : List Nat) : String :=
  "[" ++ ", ".intercalate (indices.map toString) ++ "]"

/-- The issues of a constraint on the length. -/
def lengthIssues (message : Option String) (length : Nat) (value : Value) (path : Path) :
    ArrayConstraint → List Issue
  | minLength bound =>
    if bound ≤ length then []
    else
      let text := message.getD s!"array must have at least {bound} items, got {length}"
      [(Issue.refinement path "min_length" text value).expecting s!"at least {bound} items"]
  | maxLength bound =>
    if length ≤ bound then []
    else
      let text := message.getD s!"array must have at most {bound} items, got {length}"
      [(Issue.refinement path "max_length" text value).expecting s!"at most {bound} items"]
  | ArrayConstraint.length bound =>
    if length = bound then []
    else
      let text := message.getD s!"array must have exactly {bound} items, got {length}"
      [(Issue.refinement path "length" text value).expecting s!"{bound} items"]
  | unique => []
  | uniqueBy _ => []

/-- The keys that have to be different, and the word for them, of a constraint
on uniqueness. -/
def uniqueKeys? (outputs : List Value) : ArrayConstraint → Option (List String × String)
  | unique => some (outputs.map Value.text, "value")
  | uniqueBy key => some (outputs.map fun output => (key output).text, "key")
  | _ => none

/-- The constraint is on uniqueness. -/
def isUniqueness : ArrayConstraint → Bool
  | unique => true
  | uniqueBy _ => true
  | _ => false

/-- The issues of a constraint on uniqueness, one for every group of duplicates. -/
def uniquenessIssues (c : ArrayConstraint) (message : Option String) (outputs : List Value)
    (value : Value) (path : Path) : List Issue :=
  match c.uniqueKeys? outputs with
  | some (keys, what) => (findDuplicates keys).map fun indices =>
      .refinement path "unique"
        (message.getD ("duplicate " ++ what ++ " at indices " ++ indicesText indices)) value
  | none => []

end ArrayConstraint

namespace ArrayRule

/-! ## Building -/

def constrain (r : ArrayRule) (constraint : ArrayConstraint) : ArrayRule :=
  { r with constraints := r.constraints ++ [(constraint, none)] }

/-- Requires at least one element. -/
def nonEmpty (r : ArrayRule) : ArrayRule := r.constrain (.minLength 1)

/-- Removes later duplicates from the output. -/
def withoutDuplicates (r : ArrayRule) : ArrayRule := { r with dedupe := true }

/-- Gives a message for the constraint stated last, or for input that is not an
array if there is none. -/
def withMessage (r : ArrayRule) (message : String) : ArrayRule :=
  match r.constraints with
  | [] => { r with typeMessage := some message }
  | constraints =>
    { r with
      constraints := constraints.modify (constraints.length - 1) fun entry =>
        (entry.1, some message) }

/-! ## Checking -/

/-- The findings about the length, in the order of the constraints. -/
def lengthIssues (r : ArrayRule) (length : Nat) (value : Value) (path : Path) : List Issue :=
  r.constraints.flatMap fun (constraint, message) =>
    constraint.lengthIssues message length value path

/-- The findings about uniqueness, in the order of the constraints. -/
def uniquenessIssues (r : ArrayRule) (outputs : List Value) (value : Value) (path : Path) :
    List Issue :=
  r.constraints.flatMap fun (constraint, message) =>
    constraint.uniquenessIssues message outputs value path

/-- The issue of an array with findings in its elements. -/
def failure (path : Path) (value : Value) (sub : Issues) : Issue :=
  .aggregate path s!"Array validation failed with {sub.length} issue(s)" value sub

/-- The output of an array whose elements all passed. -/
def outputOf (r : ArrayRule) (outputs : List Value) : List Value :=
  if r.dedupe then dropDuplicates outputs (outputs.map Value.text) else outputs

/-- The result for an array from the results of its elements. -/
def conclude (r : ArrayRule) (items : List Value) (path : Path) (results : List (Checked Value)) :
    Checked (List Value) :=
  let lengthIssues := r.lengthIssues items.length (.array items) path
  match Checked.collect results with
  | .error sub => Checked.settle [] (lengthIssues ++ [failure path (.array items) sub])
  | .ok outputs => Checked.settle (r.outputOf outputs)
      (lengthIssues ++ r.uniquenessIssues outputs (.array items) path)

/-- The failure of input that is not an array. -/
def mismatch (r : ArrayRule) (value : Value) (path : Path) : Checked (List Value) :=
  Checked.fail ((Issue.typeMismatch path "array" value).reworded r.typeMessage)

/-- Parses an array element by element. -/
def check (r : ArrayRule) (item : Validator) (value : Value) (path : Path) :
    Checked (List Value) :=
  match value with
  | .array items => r.conclude items path (item.onItems items path)
  | _ => r.mismatch value path

end ArrayRule

/-- The validator of arrays. -/
def Validator.array (r : ArrayRule) (modifiers : Modifiers (List Value)) (item : Validator) :
    Validator :=
  modifiers.validator (r.check item) .array

end Conform
