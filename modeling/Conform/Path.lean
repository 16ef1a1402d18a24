import Conform.Decimal.Reader
/-!
# Path — where a value stands inside another

A `Path` is the list of segments that leads from the root to a value: field
names into objects and positions in arrays. `render` writes the segments
with dots between them, and `ofString` reads such a text back: empty
pieces are dropped and a piece that is a 64-bit numeral is a position.
`joinKey` is the same join on texts.
-/


namespace Conform

/-- One step into a value. -/
inductive Segment where
  | field (name : String)
  | index (position : Nat)
deriving DecidableEq, Repr, Inhabited

/-- The steps from the root to a value. -/
structure Path where
  segments : List Segment
deriving DecidableEq, Repr, Inhabited

/-- The text of one step. -/
def Segment.render : Segment → String
  | .field name => name
  | .index position => toString position

/-- Joins the text of a path and a key. The empty text is the root. -/
def joinKey (parent key : String) : String :=
  if parent.isEmpty then key else parent ++ "." ++ key

namespace Path

def root : Path := ⟨[]⟩

/-- The path one step further. -/
def push (p : Path) (s : Segment) : Path := ⟨p.segments ++ [s]⟩

def field (p : Path) (name : String) : Path := p.push (.field name)

def index (p : Path) (position : Nat) : Path := p.push (.index position)

def isRoot (p : Path) : Bool := p.segments.isEmpty

def length (p : Path) : Nat := p.segments.length

def last? (p : Path) : Option Segment := p.segments.getLast?

/-- The path one step back; the root has none. -/
def parent? (p : Path) : Option Path :=
  if p.isRoot then none else some ⟨p.segments.dropLast⟩

/-- The path that first takes the steps of `p` and then those of `q`. -/
def append (p q : Path) : Path := ⟨p.segments ++ q.segments⟩

instance : Append Path := ⟨append⟩

/-- The segments with dots between them; the root is empty. -/
def render (p : Path) : String := ".".intercalate (p.segments.map Segment.render)

/-! ## Reading a rendered path -/

/-- The pieces of a text between dots. -/
def pieces : List Char → List (List Char)
  | [] => [[]]
  | '.' :: rest => [] :: pieces rest
  | c :: rest =>
    match pieces rest with
    | piece :: others => (c :: piece) :: others
    | [] => [[c]]

/-- The position a piece denotes: digits, possibly after a plus sign, below
`2 ^ 64`. -/
def position? (piece : List Char) : Option Nat :=
  let digits := match piece with
    | '+' :: rest => rest
    | rest => rest
  if digits.isEmpty || !digits.all isAsciiDigit then none
  else
    let n := naturalOf digits
    if n < 18446744073709551616 then some n else none

/-- The step a piece denotes. -/
def segmentOf (piece : List Char) : Segment :=
  match position? piece with
  | some n => .index n
  | none => .field (String.ofList piece)

/-- The path that a text denotes. -/
def ofString (text : String) : Path :=
  ⟨((pieces text.toList).filter fun piece => !piece.isEmpty).map segmentOf⟩

end Path

end Conform
