import Conform.Unicode.CaseTable
import Conform.Unicode.WhiteSpace
/-!
# Case — upper case, lower case and title case

The mappings take a character to one or more characters. Only one of them
looks at its surroundings: the capital sigma becomes the final sigma at
the end of a word, that is after a cased character and before none,
passing over what is ignorable.

`capitalize` writes a text in lower case and the first character of every
word in upper case; words begin at the start and after white space, `-`
and `_`.
-/


namespace Conform.Unicode

/-- The characters with these code points. -/
def chars (codes : List Nat) : List Char := codes.map Char.ofNat

/-- A mapping given by runs and expansions, the identity elsewhere. -/
def mapChar (runs : List CaseRun) (expansions : List (Nat × List Nat)) (c : Char) : List Char :=
  match mapByRuns runs c.toNat with
  | some n => [Char.ofNat n]
  | none =>
    match expansions.lookup c.toNat with
    | some codes => chars codes
    | none => [c]

/-- The upper case of a character. -/
def upperChar (c : Char) : List Char :=
  if c.toNat < 0x80 then [c.toUpper] else mapChar upperRuns upperExpansions c

/-- The lower case of a character by itself. -/
def lowerChar (c : Char) : List Char :=
  if c.toNat < 0x80 then [c.toLower] else mapChar lowerRuns lowerExpansions c

/-- The upper case of a text. -/
def upper (text : List Char) : List Char := text.flatMap upperChar

/-! ## The final sigma -/

def isCaseIgnorable (c : Char) : Bool := caseIgnorable.holdsChar c

def isCased (c : Char) : Bool := cased.holdsChar c

/-- The first character that is not ignorable is cased. -/
def meetsCased (text : List Char) : Bool :=
  match text.dropWhile isCaseIgnorable with
  | c :: _ => isCased c
  | [] => false

/-- The lower case of a text, given the characters before it in reverse. -/
def lowerAfter (before : List Char) : List Char → List Char
  | [] => []
  | c :: rest =>
    let image :=
      if c = 'Σ' then
        if meetsCased before && !meetsCased rest then ['ς'] else ['σ']
      else lowerChar c
    image ++ lowerAfter (c :: before) rest

/-- The lower case of a text. -/
def lower (text : List Char) : List Char := lowerAfter [] text

/-! ## Title case -/

/-- A word begins after this character. -/
def endsWord (c : Char) : Bool := isWhiteSpace c || c = '-' || c = '_'

/-- Puts the first character of every word in upper case; `atStart` says that a
word begins here. -/
def raiseWords (atStart : Bool) : List Char → List Char
  | [] => []
  | c :: rest =>
    (if atStart && !isWhiteSpace c then upperChar c else [c]) ++ raiseWords (endsWord c) rest

/-- The title case of a text. -/
def capitalize (text : List Char) : List Char := raiseWords true (lower text)

end Conform.Unicode
