import Conform.Format
import Conform.Pattern.Reader
import Conform.Pattern.Replace
import Conform.Rule.Ranked
import Conform.SchemaFault
import Conform.Unicode.Case
/-!
# Text — the rule for strings

A string is first transformed, in a fixed order: trimmed, put in a case,
given a text in front and one behind, and then changed by replacements in
the order in which they were stated. The constraints are checked on the
result, in the order of their ranks, and the first that fails is
reported. Lengths count characters.

Unless strict, a number or a boolean is taken for its written form.
-/


namespace Conform

/-- A case to put a string in. -/
inductive Casing where
  | upper
  | lower
  | title
deriving DecidableEq, Repr

/-- A replacement of all occurrences of a text or all matches of a pattern. -/
inductive Replacement where
  | literal (source target : String)
  | pattern (source : Regex) (target : String)
deriving Repr

/-- What can be required of a string. -/
inductive TextConstraint where
  | minLength (bound : Nat)
  | maxLength (bound : Nat)
  | length (bound : Nat)
  | oneOf (options : List String)
  | pattern (regex : Regex) (source : String)
  | contains (part : String)
  | startsWith (part : String)
  | endsWith (part : String)
  | format (format : Format)
deriving Repr

/-- The transformations and constraints of a string. -/
structure TextRule where
  trimmed : Bool := false
  casing : Option Casing := none
  front : Option String := none
  back : Option String := none
  replacements : List Replacement := []
  constraints : Ranked TextConstraint := {}
deriving Repr, Inhabited

/-! ## Texts in texts -/

/-- The first text stands somewhere in the second. -/
def occursIn (part : List Char) : List Char → Bool
  | [] => part.isEmpty
  | c :: rest => part.isPrefixOf (c :: rest) || occursIn part rest

/-- Puts a text in front of every character and at the end. -/
def interleave (text : List Char) : List Char → List Char
  | [] => text
  | c :: rest => text ++ c :: interleave text rest

/-- Replaces every occurrence of a text that is not empty, from the left;
`skip` more characters belong to the occurrence before. -/
def replaceParts (source target : List Char) : Nat → List Char → List Char
  | _, [] => []
  | skip + 1, _ :: rest => replaceParts source target skip rest
  | 0, c :: rest =>
    if source.isPrefixOf (c :: rest) then
      target ++ replaceParts source target (source.length - 1) rest
    else c :: replaceParts source target 0 rest

/-- Replaces every occurrence of a text; the empty text occurs around every
character. -/
def replaceText (source target text : List Char) : List Char :=
  if source.isEmpty then interleave target text else replaceParts source target 0 text

namespace Casing

def apply : Casing → List Char → List Char
  | upper => Unicode.upper
  | lower => Unicode.lower
  | title => Unicode.capitalize

end Casing

namespace Replacement

def apply (r : Replacement) (text : List Char) : List Char :=
  match r with
  | literal source target => replaceText source.toList target.toList text
  | pattern source target => source.replaceAll target text

end Replacement

namespace TextConstraint

/-- The place of a constraint in the order of checking. -/
def rank : TextConstraint → Nat
  | minLength _ => 0
  | maxLength _ => 1
  | length _ => 2
  | oneOf _ => 3
  | pattern .. => 4
  | contains _ => 5
  | startsWith _ => 6
  | endsWith _ => 7
  | format _ => 8

/-- The string meets the constraint. -/
def holds (c : TextConstraint) (s : String) : Bool :=
  match c with
  | minLength bound => bound ≤ s.length
  | maxLength bound => s.length ≤ bound
  | length bound => s.length = bound
  | oneOf options => options.contains s
  | pattern regex _ => regex.matchesIn s
  | contains part => occursIn part.toList s.toList
  | startsWith part => part.toList.isPrefixOf s.toList
  | endsWith part => part.toList.isSuffixOf s.toList
  | format f => f.accepts s

def code : TextConstraint → String
  | minLength _ => "min_length"
  | maxLength _ => "max_length"
  | length _ => "length"
  | oneOf _ => "one_of"
  | pattern .. => "pattern"
  | contains _ => "contains"
  | startsWith _ => "starts_with"
  | endsWith _ => "ends_with"
  | format f => f.name

/-- What a string that fails is told. -/
def message (c : TextConstraint) (s : String) : String :=
  match c with
  | minLength bound => s!"length must be at least {bound}, got {s.length}"
  | maxLength bound => s!"length must be at most {bound}, got {s.length}"
  | length bound => s!"length must be exactly {bound}, got {s.length}"
  | oneOf options => "must be one of [" ++ ", ".intercalate options ++ "], got '" ++ s ++ "'"
  | pattern _ source => "must match pattern '" ++ source ++ "'"
  | contains part => "must contain '" ++ part ++ "'"
  | startsWith part => "must start with '" ++ part ++ "'"
  | endsWith part => "must end with '" ++ part ++ "'"
  | format f => "must be a valid " ++ f.name ++ ", got '" ++ s ++ "'"

/-- What was expected. -/
def expected : TextConstraint → String
  | minLength bound => s!"at least {bound} characters"
  | maxLength bound => s!"at most {bound} characters"
  | length bound => s!"{bound} characters"
  | oneOf options => "one of [" ++ ", ".intercalate options ++ "]"
  | pattern _ source => "string matching '" ++ source ++ "'"
  | contains part => "string containing '" ++ part ++ "'"
  | startsWith part => "string starting with '" ++ part ++ "'"
  | endsWith part => "string ending with '" ++ part ++ "'"
  | format f => "valid " ++ f.name

/-- The issue of a string that fails the constraint. -/
def issue? (c : TextConstraint) (message : Option String) (s : String) (path : Path) :
    Option Issue :=
  if c.holds s then none
  else some ((Issue.refinement path c.code (message.getD (c.message s)) (.string s)).expecting
    c.expected)

end TextConstraint

namespace TextRule

/-! ## Building -/

def trim (r : TextRule) : TextRule := { r with trimmed := true }

def inCase (r : TextRule) (casing : Casing) : TextRule := { r with casing := some casing }

/-- Puts a text in front. -/
def prepend (r : TextRule) (text : String) : TextRule := { r with front := some text }

/-- Puts a text behind. -/
def append (r : TextRule) (text : String) : TextRule := { r with back := some text }

def replace (r : TextRule) (source target : String) : TextRule :=
  { r with replacements := r.replacements ++ [.literal source target] }

/-- Replaces every match of a pattern. -/
def replacePattern (r : TextRule) (pattern target : String) : Except SchemaFault TextRule :=
  match Regex.ofText? pattern with
  | some regex => .ok { r with replacements := r.replacements ++ [.pattern regex target] }
  | none => .error .invalidPattern

def constrain (r : TextRule) (constraint : TextConstraint) : TextRule :=
  { r with constraints := r.constraints.constrain TextConstraint.rank constraint }

/-- Requires a match of a pattern. -/
def matching (r : TextRule) (pattern : String) : Except SchemaFault TextRule :=
  match Regex.ofText? pattern with
  | some regex => .ok (r.constrain (.pattern regex pattern))
  | none => .error .invalidPattern

/-- Gives a message for the constraint stated last, or for input that is not a
string. -/
def withMessage (r : TextRule) (message : String) : TextRule :=
  { r with constraints := r.constraints.withMessage message }

/-! ## Checking -/

/-- The string that an input stands for. -/
def read (r : TextRule) (strict : Bool) (value : Value) (path : Path) : Checked String :=
  match value, strict with
  | .string s, _ => .ok s
  | .number n, false => .ok n.text
  | .boolean b, false => .ok (Value.boolean b).text
  | _, _ => Checked.fail <|
      (Issue.typeMismatch path "string" value).reworded r.constraints.typeMessage

/-- The string after all transformations. -/
def transform (r : TextRule) (s : String) : String :=
  let text := s.toList
  let text := if r.trimmed then Unicode.trim text else text
  let text := match r.casing with
    | some casing => casing.apply text
    | none => text
  let text := match r.front with
    | some front => front.toList ++ text
    | none => text
  let text := match r.back with
    | some back => text ++ back.toList
    | none => text
  String.ofList (r.replacements.foldl (fun text replacement => replacement.apply text) text)

/-- Reads, transforms and checks a string. -/
def check (r : TextRule) (strict : Bool) (value : Value) (path : Path) : Checked String := do
  let s ← r.read strict value path
  let s := r.transform s
  r.constraints.verify s fun constraint message => constraint.issue? message s path

end TextRule

end Conform
