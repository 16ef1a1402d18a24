import Conform.Unicode.Category
import Conform.Unicode.Script
import Conform.Unicode.WhiteSpace
/-!
# Property — properties of characters by name

`Property.ofName?` finds the set that a single name denotes: a property, a
category or a script. `Property.ofText?` reads an expression of the form
that a pattern has between braces: such a name, or a kind of property with
one of its values. Names are compared without regard to case and to
separators, and may begin with "is".
-/


namespace Conform.Unicode.Property

/-! ## Properties that follow from the categories -/

def lowercase : CodeSet := lowercaseLetter.union otherLowercase

def uppercase : CodeSet := uppercaseLetter.union otherUppercase

/-- The characters that have a case. -/
def cased : CodeSet := .unionOf [lowercase, uppercase, titlecaseLetter]

/-- The characters that are passed over when the end of a word is looked for. -/
def caseIgnorable : CodeSet :=
  .unionOf [nonspacingMark, enclosingMark, format, modifierLetter, modifierSymbol, wordMiddle]

def math : CodeSet := mathSymbol.union otherMath

/-- The characters that may begin an identifier. -/
def identifierStart : CodeSet :=
  (CodeSet.unionOf [letter, letterNumber, otherIdentifierStart]).difference patternSyntax

/-- The characters that may stand in an identifier. -/
def identifierPart : CodeSet :=
  .unionOf [identifierStart, nonspacingMark, spacingMark, decimalNumber, connectorPunctuation,
    otherIdentifierPart]

/-- The characters that extend the one before. -/
def graphemeExtend : CodeSet := .unionOf [nonspacingMark, enclosingMark, otherGraphemeExtend]

/-- The characters that stand for themselves. -/
def graphemeBase : CodeSet :=
  (CodeSet.unionOf [letter, mark, number, Category.punctuation, Category.symbol,
    spaceSeparator]).difference graphemeExtend

/-! ## Names -/

/-- The properties with their names, in small letters and without separators. -/
def named : List (List String × CodeSet) :=
  [(["asciihexdigit", "ahex"], asciiHexDigit), (["alphabetic", "alpha"], alphabetic),
    (["bidicontrol", "bidic"], bidiControl), (["bidimirrored", "bidim"], bidiMirrored),
    (["caseignorable", "ci"], caseIgnorable), (["cased"], cased), (["dash"], dash),
    (["defaultignorablecodepoint", "di"], defaultIgnorable), (["deprecated", "dep"], deprecated),
    (["diacritic", "dia"], diacritic), (["emoji"], emoji),
    (["emojicomponent", "ecomp"], emojiComponent), (["emojimodifier", "emod"], emojiModifier),
    (["emojimodifierbase", "ebase"], emojiModifierBase),
    (["emojipresentation", "epres"], emojiPresentation),
    (["extendedpictographic", "extpict"], extendedPictographic), (["extender", "ext"], extender),
    (["graphemebase", "grbase"], graphemeBase), (["graphemeextend", "grext"], graphemeExtend),
    (["hexdigit", "hex"], hexDigit), (["hyphen"], hyphen), (["idcontinue", "idc"], identifierPart),
    (["idstart", "ids"], identifierStart), (["ideographic", "ideo"], ideographic),
    (["idsbinaryoperator", "idsb"], ideographBinary),
    (["idstrinaryoperator", "idst"], ideographTernary),
    (["idsunaryoperator", "idsu"], ideographUnary), (["joincontrol", "joinc"], joinControl),
    (["logicalorderexception", "loe"], logicalOrderException), (["lowercase", "lower"], lowercase),
    (["math"], math), (["noncharactercodepoint", "nchar"], noncharacter),
    (["otheralphabetic", "oalpha"], otherAlphabetic),
    (["otherlowercase", "olower"], otherLowercase), (["othermath", "omath"], otherMath),
    (["otheruppercase", "oupper"], otherUppercase), (["patternsyntax", "patsyn"], patternSyntax),
    (["patternwhitespace", "patws"], patternWhiteSpace),
    (["prependedconcatenationmark", "pcm"], prependedConcatenation),
    (["quotationmark", "qmark"], quotationMark), (["radical"], radical),
    (["regionalindicator", "ri"], regionalIndicator),
    (["sentenceterminal", "sterm"], sentenceTerminal), (["softdotted", "sd"], softDotted),
    (["terminalpunctuation", "term"], terminalPunctuation),
    (["unifiedideograph", "uideo"], unifiedIdeograph), (["uppercase", "upper"], uppercase),
    (["variationselector", "vs"], variationSelector),
    (["whitespace", "wspace", "space"], whiteSpace),
    (["xidcontinue", "xidc"], identifierPart.difference unstablePart),
    (["xidstart", "xids"], identifierStart.difference unstableStart)]

/-- The set that a list names so. -/
def find? (sets : List (List String × CodeSet)) (name : String) : Option CodeSet :=
  (sets.find? fun entry => entry.1.contains name).map (·.2)

/-- A name in small letters, without separators, characters beyond ASCII, and an
"is" at its start; what remains of "isc" is that name itself. -/
def plainName (written : List Char) : String :=
  let lower := written.map Char.toLower
  let bare := if lower.take 2 = ['i', 's'] then lower.drop 2 else lower
  let kept := bare.filter fun c => c.toNat < 0x80 && !" _-".toList.contains c
  if bare.length < lower.length && kept = ['c'] then "isc" else String.ofList kept

/-- The set that a single name denotes. -/
def ofName? (written : List Char) : Option CodeSet :=
  let name := plainName written
  (find? named name).or <| (find? Category.named name).or <| find? Script.named name

/-- The set of the characters for which a kind of property has a value. -/
def ofValue? (kind value : List Char) : Option CodeSet :=
  match plainName kind with
  | "generalcategory" => find? Category.named (plainName value)
  | "gc" => find? Category.named (plainName value)
  | "script" => find? Script.named (plainName value)
  | "sc" => find? Script.named (plainName value)
  | _ => none

/-- The parts of a text before and after the first place where another begins. -/
def splitAt? (mark : List Char) : List Char → Option (List Char × List Char)
  | [] => none
  | c :: rest =>
    if mark.isPrefixOf (c :: rest) then some ([], (c :: rest).drop mark.length)
    else (splitAt? mark rest).map fun (before, after) => (c :: before, after)

/-- The set that an expression denotes: a name, or a kind and a value with `=` or
`:` between them, or with `!=` for its complement. -/
def ofText? (text : List Char) : Option CodeSet :=
  match splitAt? ['!', '='] text with
  | some (kind, value) => (ofValue? kind value).map CodeSet.complement
  | none =>
    match (splitAt? [':'] text).or (splitAt? ['='] text) with
    | some (kind, value) => ofValue? kind value
    | none => ofName? text

end Conform.Unicode.Property
