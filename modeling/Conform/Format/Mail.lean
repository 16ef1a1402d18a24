import Conform.Decimal.Reader
import Conform.Path
import Conform.Unicode.WhiteSpace
/-!
# Mail — mail addresses and web addresses

A mail address is a local part, an at sign, and two or more labels with
dots between them. A web address is a scheme and a text without blanks
that does not start like a path.
-/


namespace Conform

namespace Format

/-- An ASCII letter or digit. -/
def isAlphanumeric (c : Char) : Bool := c.isAlphanum

/-- A character of the local part of a mail address. -/
def isLocal (c : Char) : Bool :=
  isAlphanumeric c || ".!#$%&'*+/=?^_\x60\x7b|\x7d~-".toList.contains c

/-- A character of a label. -/
def isLabelChar (c : Char) : Bool := isAlphanumeric c || c = '-'

/-- One to 63 letters, digits and dashes, with no dash at either end. -/
def isLabel (label : List Char) : Bool :=
  0 < label.length && label.length ≤ 63 && label.all isLabelChar &&
    label.head? != some '-' && label.getLast? != some '-'

/-- A mail address. -/
def isEmail (text : List Char) : Bool :=
  let name := text.takeWhile isLocal
  match text.dropWhile isLocal with
  | '@' :: domain =>
    let labels := Path.pieces domain
    !name.isEmpty && 2 ≤ labels.length && labels.all isLabel
  | _ => false

/-- The text after a given start. -/
def after? (start text : List Char) : Option (List Char) :=
  if start.isPrefixOf text then some (text.drop start.length) else none

/-- The part of a web address after its scheme. -/
def isHostAndPath : List Char → Bool
  | c :: rest => !"/$.?#".toList.contains c && (c :: rest).all fun c => !Unicode.isWhiteSpace c
  | [] => false

/-- A web address. -/
def isUrl (text : List Char) : Bool :=
  match after? "https://".toList text with
  | some rest => isHostAndPath rest
  | none =>
    match after? "http://".toList text with
    | some rest => isHostAndPath rest
    | none => false

end Format

end Conform
