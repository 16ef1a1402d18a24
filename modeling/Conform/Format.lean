import Conform.Format.Address
import Conform.Format.Mail
import Conform.Instant.Reader
/-!
# Format — well-known forms of text

A `Format` has a name, which is also the code of the issue that reports a
mismatch, and `Format.accepts` decides whether a text has the form. The
plain ones are runs of ASCII characters and are never empty.
-/


namespace Conform

/-- The well-known forms. -/
inductive Format where
  | email
  | url
  | uuid
  | ip
  | mac
  | dateTime
  | numeric
  | alphanumeric
  | hex
  | alphabetic
deriving DecidableEq, Repr, Inhabited

namespace Format

def name : Format → String
  | email => "email"
  | url => "url"
  | uuid => "uuid"
  | ip => "ip"
  | mac => "mac"
  | dateTime => "datetime"
  | numeric => "numeric"
  | alphanumeric => "alphanumeric"
  | hex => "hex"
  | alphabetic => "alphabetic"

def all : List Format :=
  [email, url, uuid, ip, mac, dateTime, numeric, alphanumeric, hex, alphabetic]

/-- The format with a name. -/
def ofName? (name : String) : Option Format := all.find? fun f => f.name = name

/-- A text of one or more characters of a kind. -/
def isRunOf (kind : Char → Bool) (text : List Char) : Bool := !text.isEmpty && text.all kind

/-- The text has the format. -/
def accepts (f : Format) (text : String) : Bool :=
  match f with
  | email => isEmail text.toList
  | url => isUrl text.toList
  | uuid => isUuid text.toList
  | ip => isAddress text.toList
  | mac => isMac text.toList
  | dateTime => (Instant.ofTimestamp? text).isSome
  | numeric => isRunOf isAsciiDigit text.toList
  | alphanumeric => isRunOf isAlphanumeric text.toList
  | hex => isRunOf isHexDigit text.toList
  | alphabetic => isRunOf Char.isAlpha text.toList

end Format

end Conform
