import Conform.Issue
/-!
# SchemaFault — what can be wrong with a schema itself

A schema is checked while it is built. Every way to build it wrongly is a
`SchemaFault`, with its message, and `SchemaFault.issue` reports it in the
form of a finding at the root.
-/


namespace Conform

/-- The ways a schema can be malformed. -/
inductive SchemaFault where
  | emptyUnion
  | emptyEnum
  /-- An option of an enumeration is neither a string nor a number. -/
  | invalidEnumOption (option : Value)
  /-- A derived object shape names a field that the shape does not declare. -/
  | unknownField (name : String)
  | duplicateField (name : String)
  | invalidPattern
deriving Repr, Inhabited

namespace SchemaFault

def code : SchemaFault → String
  | emptyUnion => "empty_union"
  | emptyEnum => "empty_enum"
  | invalidEnumOption _ => "invalid_enum_option"
  | unknownField _ => "unknown_field"
  | duplicateField _ => "duplicate_field"
  | invalidPattern => "invalid_pattern"

def message : SchemaFault → String
  | emptyUnion => "union requires at least one alternative"
  | emptyEnum => "enum requires at least one option"
  | invalidEnumOption option => "enum option " ++ option.text ++ " must be a string or a number"
  | unknownField name => "field '" ++ name ++ "' is not declared in the object schema"
  | duplicateField name => "field '" ++ name ++ "' is declared more than once"
  | invalidPattern => "invalid pattern"

/-- The fault as a finding at the root. -/
def issue (fault : SchemaFault) : Issue := .schema .root fault.code fault.message

end SchemaFault

end Conform
