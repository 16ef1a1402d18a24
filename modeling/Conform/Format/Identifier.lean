import Conform.Decimal.Reader
/-!
# Identifier — identifiers in hexadecimal groups

A UUID has dashes at four fixed positions among hexadecimal digits. A MAC
address has six groups of two digits, with the separator that its third
character shows. Lengths and positions are counted in bytes of UTF-8, so a
character that takes several bytes moves all that stand behind it.
-/


namespace Conform

namespace Format

/-- An ASCII hexadecimal digit. -/
def isHexDigit (c : Char) : Bool :=
  isAsciiDigit c || ('a' ≤ c && c ≤ 'f') || ('A' ≤ c && c ≤ 'F')

/-- The number of bytes of a text. -/
def byteLength : List Char → Nat
  | [] => 0
  | c :: rest => c.utf8Size + byteLength rest

/-- The characters of a text, each with the position of its first byte, where the text
starts at `position`. -/
def withPositions (position : Nat) : List Char → List (Char × Nat)
  | [] => []
  | c :: rest => (c, position) :: withPositions (position + c.utf8Size) rest

/-- A position of a UUID at which a dash stands. -/
def isDashPosition (i : Nat) : Bool := i = 8 || i = 13 || i = 18 || i = 23

/-- A UUID: 36 bytes, dashes at their positions and digits at the others. -/
def isUuid (text : List Char) : Bool :=
  byteLength text = 36 &&
    (withPositions 0 text).all fun (c, i) => if isDashPosition i then c = '-' else isHexDigit c

/-- The pieces of a text between separators. -/
def splitAt (separator : Char) : List Char → List (List Char)
  | [] => [[]]
  | c :: rest =>
    if c = separator then [] :: splitAt separator rest
    else
      match splitAt separator rest with
      | piece :: others => (c :: piece) :: others
      | [] => [[c]]

/-- A MAC address. -/
def isMac (text : List Char) : Bool :=
  match text[2]? with
  | some separator =>
    let groups := splitAt separator text
    (separator = ':' || separator = '-') && groups.length = 6 &&
      groups.all fun group => byteLength group = 2 && group.all isHexDigit
  | none => false

end Format

end Conform
