import Conform.Unicode.CodeSet
/-!
# WhiteSpace — blank characters of all scripts

The characters with the white-space property, and `trim`, which drops them
from both ends of a text.
-/


namespace Conform.Unicode

/-- The characters with the white-space property. -/
def whiteSpace : CodeSet :=
  ⟨[0x9, 0xE, 0x20, 0x21, 0x85, 0x86, 0xA0, 0xA1, 0x1680, 0x1681, 0x2000, 0x200B, 0x2028, 0x202A,
    0x202F, 0x2030, 0x205F, 0x2060, 0x3000, 0x3001]⟩

def isWhiteSpace (c : Char) : Bool := whiteSpace.holdsChar c

/-- The text after its leading white space. -/
def trimStart (text : List Char) : List Char := text.dropWhile isWhiteSpace

/-- The text without white space at either end. -/
def trim (text : List Char) : List Char := (trimStart (trimStart text).reverse).reverse

end Conform.Unicode
