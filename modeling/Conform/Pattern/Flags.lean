import Conform.Unicode.FoldTable
import Conform.Unicode.WhiteSpace
/-!
# Flags — how the text of a pattern is to be read

A flag holds from where it is set to the end of the group. Under the flag
`x` blanks mean nothing, and a number sign opens a comment that goes on to
the end of the line; `Flags.pass` is what passes over both.

`Nested` is what has been read, with the depth of its written form. Depth
grows with every bracket, every repetition, and every list of two or more
parts.
-/


namespace Conform.Pattern

open Unicode

/-- The flags in force. -/
structure Flags where
  /-- `i`: letters stand for both cases. -/
  anyCase : Bool := false
  /-- `m`: the line anchors hold at every line break. -/
  multiLine : Bool := false
  /-- `s`: the dot stands for a line break too. -/
  dotAll : Bool := false
  /-- `U`: a repetition is lazy unless marked. -/
  swapGreed : Bool := false
  /-- `R`: a carriage return ends a line too. -/
  crlf : Bool := false
  /-- `x`: blanks and comments mean nothing. -/
  spaced : Bool := false
  /-- Not `u`: classes and words are those of ASCII. -/
  ascii : Bool := false
deriving Repr

namespace Flags

/-- Sets or clears a flag. -/
def set? (flags : Flags) (c : Char) (on : Bool) : Option Flags :=
  match c with
  | 'i' => some { flags with anyCase := on }
  | 'm' => some { flags with multiLine := on }
  | 's' => some { flags with dotAll := on }
  | 'U' => some { flags with swapGreed := on }
  | 'R' => some { flags with crlf := on }
  | 'x' => some { flags with spaced := on }
  | 'u' => some { flags with ascii := !on }
  | _ => none

/-- Reads flags up to a colon or a closing parenthesis, which it leaves; yields
them with the characters read. No flag occurs twice, and a minus sign is
followed by a flag. -/
def read (flags : Flags) (on : Bool) (seen : List Char) :
    List Char → Option (Flags × List Char × List Char)
  | [] => none
  | c :: rest =>
    if c = ':' ∨ c = ')' then
      if seen.head? = some '-' then none else some (flags, seen, c :: rest)
    else if seen.contains c then none
    else if c = '-' then read flags false ('-' :: seen) rest
    else
      match flags.set? c on with
      | some flags => read flags on (c :: seen) rest
      | none => none

/-! ## Blanks -/

/-- The text after its blanks and comments, the first of them open already if
`inComment`. -/
def dropBlanks (inComment : Bool) : List Char → List Char
  | [] => []
  | c :: rest =>
    if inComment then dropBlanks (c != '\n') rest
    else if isWhiteSpace c then dropBlanks false rest
    else if c = '#' then dropBlanks true rest
    else c :: rest

/-- Passes over blanks and comments where they mean nothing. -/
def pass (flags : Flags) (text : List Char) : List Char :=
  if flags.spaced then dropBlanks false text else text

/-- The characters at the start of a text that satisfy `p`, `most` of them at most,
and what follows them, with blanks passed over behind each. -/
def span (flags : Flags) (p : Char → Bool) : Nat → List Char → List Char × List Char
  | most + 1, c :: rest =>
    if p c then
      let (taken, rest) := span flags p most (flags.pass rest)
      (c :: taken, rest)
    else ([], c :: rest)
  | _, text => ([], text)

/-- All characters at the start of a text that satisfy `p`, and what follows them,
with blanks passed over behind each. -/
def spanAll (flags : Flags) (p : Char → Bool) (text : List Char) : List Char × List Char :=
  if flags.spaced then flags.span p text.length text
  else (text.takeWhile p, text.dropWhile p)

/-! ## Sets -/

/-- The set with both cases of its letters, if they do not matter. -/
def fold (flags : Flags) (set : CodeSet) : CodeSet :=
  if flags.anyCase then if flags.ascii then set.closeAsciiCase else set.closeCase else set

/-- The set, or what is not in it. There is no complement within ASCII: it would
match parts of characters. -/
def settle? (flags : Flags) (negated : Bool) (set : CodeSet) : Option CodeSet :=
  if negated then if flags.ascii then none else some (flags.fold set).complement
  else some (flags.fold set)

end Flags

/-- Something read, and how deep its written form goes. -/
structure Nested (α : Type) where
  value : α
  depth : Nat := 0
deriving Repr

namespace Nested

/-- What stands between brackets or in front of a repetition. -/
def enclosed {α : Type} (part : Nested α) : Nested α := { part with depth := part.depth + 1 }

/-- The depth of a list of parts. -/
def depthOf {α : Type} : List (Nested α) → Nat
  | [] => 0
  | [part] => part.depth
  | parts => (parts.map (·.depth)).foldl max 0 + 1

/-- Puts a list of parts together. -/
def collect {α β : Type} (join : List α → β) (parts : List (Nested α)) : Nested β :=
  ⟨join (parts.map (·.value)), depthOf parts⟩

end Nested

end Conform.Pattern
