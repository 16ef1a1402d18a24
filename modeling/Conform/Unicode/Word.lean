import Conform.Unicode.Category.Letter
import Conform.Unicode.Category.Mark
import Conform.Unicode.Category.Number
import Conform.Unicode.Category.Punctuation
import Conform.Unicode.PropertyTable
/-!
# Word — letters, digits and the characters of words

Alphabetic are the letters, the numbers that look like letters, and the
marks and circled letters that serve as letters. The characters of words
are these, all marks, the decimal digits, the punctuation that connects
words, and the two characters that join letters or keep them apart.
-/


namespace Conform.Unicode

/-- All letters. -/
def letter : CodeSet :=
  .unionOf [uppercaseLetter, lowercaseLetter, titlecaseLetter, modifierLetter, otherLetter]

/-- All marks. -/
def mark : CodeSet := .unionOf [nonspacingMark, spacingMark, enclosingMark]

/-- All numbers. -/
def number : CodeSet := .unionOf [decimalNumber, letterNumber, otherNumber]

/-- The characters of alphabets. -/
def alphabetic : CodeSet := .unionOf [letter, letterNumber, otherAlphabetic]

/-- The characters of words. -/
def word : CodeSet :=
  .unionOf [alphabetic, mark, decimalNumber, connectorPunctuation, joinControl]

def isAlphabetic (c : Char) : Bool := alphabetic.holdsChar c

def isAlphanumeric (c : Char) : Bool := alphabetic.holdsChar c || number.holdsChar c

def isWord (c : Char) : Bool := word.holdsChar c

end Conform.Unicode
