import Conform.Value
/-!
# Text — the compact written form of a value

`Value.text` writes a value without spaces, its members in order, so the
text shows the order of members and the form of every number. `quoted` is
the written form of a string.
-/


namespace Conform

/-- A hexadecimal digit in lower case. -/
def hexDigit (n : Nat) : Char :=
  if n < 10 then Char.ofNat ('0'.toNat + n) else Char.ofNat ('a'.toNat + (n - 10))

/-- A character inside quotes: the quote, the backslash and the control
characters are escaped, all else stands for itself. -/
def escaped (c : Char) : List Char :=
  match c with
  | '\x22' => ['\\', '\x22']
  | '\\' => ['\\', '\\']
  | '\x08' => ['\\', 'b']
  | '\t' => ['\\', 't']
  | '\n' => ['\\', 'n']
  | '\x0c' => ['\\', 'f']
  | '\r' => ['\\', 'r']
  | c =>
    if c.toNat < 0x20 then
      ['\\', 'u', '0', '0', hexDigit (c.toNat / 16), hexDigit (c.toNat % 16)]
    else [c]

/-- A string between quotes. -/
def quoted (s : String) : String :=
  String.ofList ('\x22' :: s.toList.flatMap escaped ++ ['\x22'])

namespace Value

/-- Texts with a comma between them. -/
def commas (texts : List String) : String := ",".intercalate texts

mutual

/-- The compact written form. -/
def text : Value → String
  | null => "null"
  | boolean b => if b then "true" else "false"
  | number n => n.text
  | string s => quoted s
  | array items => "[" ++ commas (itemTexts items) ++ "]"
  | object members => "\x7b" ++ commas (memberTexts members) ++ "\x7d"

/-- The written forms of the items of an array. -/
def itemTexts : List Value → List String
  | [] => []
  | x :: rest => text x :: itemTexts rest

/-- The written forms of the members of an object. -/
def memberTexts : List (String × Value) → List String
  | [] => []
  | (key, x) :: rest => (quoted key ++ ":" ++ text x) :: memberTexts rest

end

end Value

end Conform
