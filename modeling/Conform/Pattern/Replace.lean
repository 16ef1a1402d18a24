import Conform.Pattern.Search
import Conform.Path
/-!
# Replace — replacing the matches of a pattern

`Regex.allMatches` finds the matches of a text from left to right. They do
not overlap, and an empty match right behind the match before it does not
count; `Regex.replaceAll` replaces them all. In the replacement a dollar
sign refers to a group by number or name; two dollar signs stand for one, a
group that is unknown or took no part is empty, and a dollar sign that
starts no reference stands for itself.
-/


namespace Conform

/-! ## Replacement texts -/

/-- A piece of a replacement: a character, or a reference to a group. -/
inductive Template where
  | char (c : Char)
  | reference (name : String)
deriving Repr

namespace Template

/-- A character of a group's name. -/
def isNameChar (c : Char) : Bool := c.isAlphanum || c = '_'

theorem length_dropWhile_le (p : Char → Bool) (text : List Char) :
    (text.dropWhile p).length ≤ text.length :=
  (List.dropWhile_sublist p).length_le

/-- Reads the pieces of a replacement. -/
def read : List Char → List Template
  | [] => []
  | '$' :: '$' :: rest => char '$' :: read rest
  | '$' :: '\x7b' :: rest =>
    if rest.contains '\x7d' then
      reference (String.ofList (rest.takeWhile (· != '\x7d'))) ::
        read ((rest.dropWhile (· != '\x7d')).drop 1)
    else char '$' :: read ('\x7b' :: rest)
  | '$' :: rest =>
    let name := rest.takeWhile isNameChar
    if name.isEmpty then char '$' :: read rest
    else reference (String.ofList name) :: read (rest.dropWhile isNameChar)
  | c :: rest => char c :: read rest
termination_by text => text.length
decreasing_by
  all_goals
    have braced := length_dropWhile_le (· != '\x7d') rest
    have named := length_dropWhile_le isNameChar rest
    simp only [List.length_cons, List.length_drop]
    omega

end Template

namespace Regex

/-- The number of the group that a reference means. -/
def groupNumber? (r : Regex) (reference : String) : Option Nat :=
  match Path.position? reference.toList with
  | some n => some n
  | none => r.names.lookup reference

/-- What a piece of a replacement stands for in a match. -/
def expand (r : Regex) (first : Place) (last : Cursor) : Template → List Char
  | .char c => [c]
  | .reference name =>
    match r.groupNumber? name with
    | some 0 => first.textTo last.place
    | some n =>
      match last.group? n with
      | some (start, stop) => start.textTo stop
      | none => []
    | none => []

/-- The matches from a place on, behind those `found` before in reverse. `lastEnd`
is where the match before ended; `remaining` limits the number of matches. -/
def matchesFrom (p : Program) (bound : Nat) :
    Nat → Option Nat → Place → List (Place × Cursor) → List (Place × Cursor)
  | 0, _, _, found => found.reverse
  | remaining + 1, lastEnd, place, found =>
    match p.findFrom bound place with
    | none => found.reverse
    | some (first, last) =>
      if first.position = last.place.position && lastEnd = some first.position then
        match place.next? with
        | some (_, next) => matchesFrom p bound remaining lastEnd next found
        | none => found.reverse
      else
        matchesFrom p bound remaining (some last.place.position) last.place
          ((first, last) :: found)

/-- All matches of a text, from left to right. Each begins behind the one before,
and at most one begins at every place. -/
def allMatches (r : Regex) (text : List Char) : List (Place × Cursor) :=
  let p := r.pattern.program
  matchesFrom p (p.bound text.length) (2 * text.length + 2) none (.start text) []

/-- The text with every match replaced. -/
def replaceAll (r : Regex) (replacement : String) (text : List Char) : List Char :=
  let template := Template.read replacement.toList
  let found := r.allMatches text
  let ends := found.map fun (_, last) => last.place
  let between := ((Place.start text :: ends).zip found).flatMap fun (before, first, last) =>
    before.textTo first ++ template.flatMap (r.expand first last)
  between ++ (ends.getLast?.getD (.start text)).rest

end Regex

end Conform
