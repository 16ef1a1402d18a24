import Conform.Decimal.Reader
import Conform.Checked
import Conform.SchemaFault
/-!
# Enumeration — the rule for one of several options

The options are strings and numbers, and there is at least one. Numbers are
compared as doubles, so the form of a number does not matter, and the
output is the option and not the input. Unless strict, a string that is a
plain decimal numeral is taken for the number.
-/


namespace Conform

/-- The options, in order. -/
structure EnumerationRule where
  options : List Value
deriving Repr, Inhabited

namespace EnumerationRule

/-- A string or a number. -/
def isOption : Value → Bool
  | .string _ => true
  | .number _ => true
  | _ => false

/-- The rule of a list of options. -/
def ofList (options : List Value) : Except SchemaFault EnumerationRule :=
  match options with
  | [] => .error .emptyEnum
  | _ =>
    match options.find? fun option => !isOption option with
    | some bad => .error (.invalidEnumOption bad)
    | none => .ok ⟨options⟩

/-- The option stands for the candidate. -/
def sameMember (option candidate : Value) : Bool :=
  match option, candidate with
  | .number a, .number b => a.toBinary64.same b.toBinary64
  | _, _ => option.same candidate

/-- The first option that stands for the candidate. -/
def find? (r : EnumerationRule) (candidate : Value) : Option Value :=
  r.options.find? fun option => sameMember option candidate

/-- Digits, possibly after a minus sign, and possibly with a point and digits
behind them. -/
def isPlainNumeral (text : List Char) : Bool :=
  let text := match text with
    | '-' :: rest => rest
    | rest => rest
  let (whole, rest) := spanDigits text
  !whole.isEmpty && match rest with
    | [] => true
    | '.' :: fraction => !fraction.isEmpty && fraction.all isAsciiDigit
    | _ => false

/-- The finite number that a plain numeral denotes. -/
def numberOf? (s : String) : Option Value :=
  if isPlainNumeral s.toList then
    match Binary64.ofText? s with
    | some n => if n.isFinite then some (.number (.double n)) else none
    | none => none
  else none

/-- What is looked for among the options. -/
def candidate (strict : Bool) (value : Value) : Value :=
  match value, strict with
  | .string s, false => (numberOf? s).getD value
  | _, _ => value

/-- The texts of the options with commas between them. -/
def listed (r : EnumerationRule) : String := ", ".intercalate (r.options.map Value.text)

/-- Looks an input up among the options. -/
def check (r : EnumerationRule) (strict : Bool) (value : Value) (path : Path) : Checked Value :=
  match r.find? (candidate strict value) with
  | some option => .ok option
  | none => Checked.fail <|
      (Issue.refinement path "invalid_enum_value"
        ("expected one of " ++ r.listed ++ ", received " ++ value.text) value).expecting
        ("one of " ++ r.listed)

end EnumerationRule

end Conform
