import Conform.Unicode.Category.Separator
import Conform.Unicode.Category.Symbol
import Conform.Unicode.Word
/-!
# Category — general categories by name

Every character has one category, whose short name begins with the short
name of the group it belongs to. A code point without a category is
unassigned.
-/


namespace Conform.Unicode.Category

/-- The letters that have a case. -/
def casedLetter : CodeSet := .unionOf [uppercaseLetter, lowercaseLetter, titlecaseLetter]

/-- All punctuation. -/
def punctuation : CodeSet :=
  .unionOf [connectorPunctuation, dashPunctuation, openPunctuation, closePunctuation,
    initialPunctuation, finalPunctuation, otherPunctuation]

/-- All symbols. -/
def symbol : CodeSet := .unionOf [mathSymbol, currencySymbol, modifierSymbol, otherSymbol]

/-- All separators. -/
def separator : CodeSet := .unionOf [spaceSeparator, lineSeparator, paragraphSeparator]

/-- The code points that are assigned to nothing. -/
def unassigned : CodeSet :=
  (CodeSet.unionOf [letter, mark, number, punctuation, symbol, separator, control, format,
    privateUse, surrogates]).complement
where
  /-- The code points that no text holds. -/
  surrogates : CodeSet := .range 0xD800 0xDFFF

/-- The code points of no other group. -/
def other : CodeSet := .unionOf [control, format, privateUse, unassigned]

/-- The categories and their groups with their names, in small letters and
without separators. -/
def named : List (List String × CodeSet) :=
  [(["any"], CodeSet.empty.complement), (["assigned"], unassigned.complement),
    (["ascii"], .range 0 0x7F),
    (["letter", "l"], letter), (["casedletter", "lc"], casedLetter),
    (["uppercaseletter", "lu"], uppercaseLetter), (["lowercaseletter", "ll"], lowercaseLetter),
    (["titlecaseletter", "lt"], titlecaseLetter), (["modifierletter", "lm"], modifierLetter),
    (["otherletter", "lo"], otherLetter),
    (["mark", "m", "combiningmark"], mark), (["nonspacingmark", "mn"], nonspacingMark),
    (["spacingmark", "mc"], spacingMark), (["enclosingmark", "me"], enclosingMark),
    (["number", "n"], number), (["decimalnumber", "nd", "digit"], decimalNumber),
    (["letternumber", "nl"], letterNumber), (["othernumber", "no"], otherNumber),
    (["punctuation", "p", "punct"], punctuation),
    (["connectorpunctuation", "pc"], connectorPunctuation),
    (["dashpunctuation", "pd"], dashPunctuation), (["openpunctuation", "ps"], openPunctuation),
    (["closepunctuation", "pe"], closePunctuation),
    (["initialpunctuation", "pi"], initialPunctuation),
    (["finalpunctuation", "pf"], finalPunctuation),
    (["otherpunctuation", "po"], otherPunctuation),
    (["symbol", "s"], symbol), (["mathsymbol", "sm"], mathSymbol),
    (["currencysymbol", "sc"], currencySymbol), (["modifiersymbol", "sk"], modifierSymbol),
    (["othersymbol", "so"], otherSymbol),
    (["separator", "z"], separator), (["spaceseparator", "zs"], spaceSeparator),
    (["lineseparator", "zl"], lineSeparator),
    (["paragraphseparator", "zp"], paragraphSeparator),
    (["other", "c"], other), (["control", "cc", "cntrl"], control), (["format", "cf"], format),
    (["privateuse", "co"], privateUse), (["unassigned", "cn"], unassigned)]

end Conform.Unicode.Category
