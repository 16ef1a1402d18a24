import Conform.Value.Text
import Conform.Path
/-!
# Issue — what is wrong with a value, and where

An `Issue` is one finding with its place, kind, code and message. A finding
that only relays others, as an object does for its fields, carries them as
`sub`; an issue with no `sub` is a leaf. `Issues` is a non-empty list of
issues, so a failed check always says why. `Issues.leaves` is the flat
list of root causes, in reporting order.
-/


namespace Conform

/-- The kinds of findings. -/
inductive IssueKind where
  | required
  | type
  | refinement
  | schema
  | aggregate
deriving DecidableEq, Repr, Inhabited

namespace IssueKind

def name : IssueKind → String
  | required => "required"
  | type => "type"
  | refinement => "refinement"
  | schema => "schema"
  | aggregate => "aggregate"

/-- The code of an issue that names no other. -/
def defaultCode : IssueKind → String
  | required => "required"
  | type => "invalid_type"
  | refinement => "refinement"
  | schema => "invalid_schema"
  | aggregate => "aggregate"

end IssueKind

/-- One finding. -/
structure Issue where
  path : Path
  kind : IssueKind
  code : String
  message : String
  value : Option Value := none
  expected : Option String := none
  /-- The findings this one relays; empty for a leaf. -/
  sub : List Issue := []
deriving Repr, Inhabited

/-- A non-empty list of findings. -/
structure Issues where
  first : Issue
  rest : List Issue
deriving Repr, Inhabited

namespace Issues

def single (issue : Issue) : Issues := ⟨issue, []⟩

def toList (issues : Issues) : List Issue := issues.first :: issues.rest

/-- The issues of a list, if it has any. -/
def ofList? : List Issue → Option Issues
  | [] => none
  | issue :: rest => some ⟨issue, rest⟩

def length (issues : Issues) : Nat := issues.toList.length

/-- All issues of the left, then all of the right. -/
def append (a b : Issues) : Issues := ⟨a.first, a.rest ++ b.toList⟩

instance : Append Issues := ⟨append⟩

/-- The top-level issues at a path. -/
def atPath (issues : Issues) (path : Path) : List Issue :=
  issues.toList.filter fun issue => issue.path = path

/-- The top-level issues with a code. -/
def withCode (issues : Issues) (code : String) : List Issue :=
  issues.toList.filter fun issue => issue.code = code

/-- The top-level issues of a kind. -/
def withKind (issues : Issues) (kind : IssueKind) : List Issue :=
  issues.toList.filter fun issue => issue.kind = kind

end Issues

namespace Issue

/-! ## The findings that checks report -/

/-- An issue with the code of its kind and no more than a message. -/
def new (path : Path) (kind : IssueKind) (message : String) : Issue :=
  { path, kind, code := kind.defaultCode, message }

/-- Nothing stands where a value is needed. -/
def required (path : Path) : Issue :=
  { new path .required "expected a value, but received nothing" with expected := some "value" }

/-- A value of the wrong type. -/
def typeMismatch (path : Path) (expected : String) (value : Value) : Issue :=
  { new path .type ("expected " ++ expected ++ ", received " ++ value.typeName) with
    expected := some expected, value := some value }

/-- A value of the right type that a rule refuses. -/
def refinement (path : Path) (code message : String) (value : Value) : Issue :=
  { new path .refinement message with code, value := some value }

/-- A value refused because of the findings in its parts or by its alternatives. -/
def aggregate (path : Path) (message : String) (value : Value) (sub : Issues) : Issue :=
  { new path .aggregate message with value := some value, sub := sub.toList }

/-- A schema that is itself malformed. -/
def schema (path : Path) (code message : String) : Issue :=
  { new path .schema message with code }

/-- The issue with another message, if one is given. -/
def reworded (issue : Issue) (message : Option String) : Issue :=
  { issue with message := message.getD issue.message }

/-- The issue with a description of what was expected. -/
def expecting (issue : Issue) (expected : String) : Issue :=
  { issue with expected := some expected }

def isLeaf (issue : Issue) : Bool := issue.sub.isEmpty

/-! ## Leaves -/

mutual

/-- The leaves of the tree of an issue, depth first. -/
def leaves : Issue → List Issue
  | ⟨path, kind, code, message, value, expected, []⟩ =>
    [⟨path, kind, code, message, value, expected, []⟩]
  | ⟨_, _, _, _, _, _, sub :: others⟩ => leaves sub ++ leavesOf others

/-- The leaves of a list of issues, in order. -/
def leavesOf : List Issue → List Issue
  | [] => []
  | issue :: rest => leaves issue ++ leavesOf rest

end

/-! ## Equality -/

/-- Equality of what two issues may or may not carry. -/
def sameValue : Option Value → Option Value → Bool
  | none, none => true
  | some a, some b => a.same b
  | _, _ => false

mutual

/-- Equality of issues, with values compared by `Value.same`. -/
def same : Issue → Issue → Bool
  | ⟨path, kind, code, message, value, expected, sub⟩, other =>
    path = other.path && kind = other.kind && code = other.code && message = other.message &&
      sameValue value other.value && expected = other.expected && sameAll sub other.sub

/-- Equality of lists of issues. -/
def sameAll : List Issue → List Issue → Bool
  | [], [] => true
  | a :: as, b :: bs => same a b && sameAll as bs
  | _, _ => false

end

end Issue

/-- The root causes behind all issues, in reporting order. -/
def Issues.leaves (issues : Issues) : List Issue := Issue.leavesOf issues.toList

/-- Equality of collections of issues. -/
def Issues.same (a b : Issues) : Bool := Issue.sameAll a.toList b.toList

end Conform
