import Conform.Unicode.CodeSet
/-!
# ByteSequence — sets of code points as bytes

UTF-8 writes a code point as a leading byte and up to three bytes of six
bits behind it. The members of a set are written by sequences of byte
ranges: any choice of a byte from each range is a member, and every member
is written by one sequence. `CodeSet.byteSequences` lists them in ascending
order, as few as there can be.
-/


namespace Conform.Unicode

/-- The first and the last of the bytes that may stand at one place. -/
abbrev ByteRange := Nat × Nat

/-- Byte ranges, one behind the other. -/
abbrev ByteSequence := List ByteRange

namespace ByteSequence

/-- The sequences for the numbers from `first` to `last`, with so many bytes behind
the leading one, which counts from `lead`. Numbers that agree in their leading
byte are parted further; blocks of numbers that are complete are not. -/
def between : Nat → Nat → Nat → Nat → List ByteSequence
  | 0, lead, first, last => [[(lead + first, lead + last)]]
  | more + 1, lead, first, last =>
    let block := Nat.pow 64 (more + 1)
    let within (head first last : Nat) : List ByteSequence :=
      (between more 0x80 first last).map ((lead + head, lead + head) :: ·)
    let a := first / block
    let b := last / block
    if a = b then within a (first % block) (last % block)
    else
      let cutFirst := first % block != 0
      let cutLast := last % block != block - 1
      let start := if cutFirst then a + 1 else a
      let stop := if cutLast then b - 1 else b
      (if cutFirst then within a (first % block) (block - 1) else []) ++
        (if start ≤ stop then
          [(lead + start, lead + stop) :: List.replicate (more + 1) (0x80, 0xBF)] else []) ++
        (if cutLast then within b 0 (last % block) else [])

/-- The code points that are written in as many bytes: the first and the last of
them, the number of bytes behind the leading one, and where that counts from. -/
def lengths : List (Nat × Nat × Nat × Nat) :=
  [(0x0, 0x7F, 0, 0x0), (0x80, 0x7FF, 1, 0xC0), (0x800, 0xD7FF, 2, 0xE0),
    (0xE000, 0xFFFF, 2, 0xE0), (0x10000, 0x10FFFF, 3, 0xF0)]

end ByteSequence

/-- The byte sequences of the members of a set, in ascending order. -/
def CodeSet.byteSequences (s : CodeSet) : List ByteSequence :=
  s.ranges.flatMap fun (first, last) =>
    ByteSequence.lengths.flatMap fun (least, greatest, more, lead) =>
      if max first least ≤ min last greatest then
        ByteSequence.between more lead (max first least) (min last greatest)
      else []

end Conform.Unicode
