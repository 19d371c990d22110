import BehaviorDiff.Unicode.CodeRanges

set_option autoImplicit false

/-!
Ranges of code points as sequences of ranges of bytes. A sequence of byte ranges stands for the
characters whose UTF-8 form has one byte of each range in turn. A range of code points is cut where
the number of bytes changes, and where not all bytes behind the one that changes take every value.
-/

namespace BehaviorDiff

/-- A range of bytes. -/
abbrev ByteRange := UInt8 × UInt8

namespace CodeRanges

/-- Cuts a range behind a code point that lies inside of it. -/
def cutBehind (code : Nat) (range : Nat × Nat) : CodeRanges :=
  if range.1 ≤ code ∧ code < range.2 then [(range.1, code), (next code, range.2)] else [range]

/-- Cuts a range so that it begins and ends with a block of some size, unless it lies within one. -/
def cutAtBlocks (size : Nat) (range : Nat × Nat) : CodeRanges :=
  let block (code : Nat) : Nat := code / size
  if block range.1 = block range.2 then [range]
  else
    let (head, start) :=
      if range.1 % size = 0 then ([], range.1)
      else
        let start := (block range.1 + 1) * size
        ([(range.1, start - 1)], start)
    if block start = block range.2 ∨ range.2 % size = size - 1 then head ++ [(start, range.2)]
    else
      let stop := block range.2 * size
      head ++ [(start, stop - 1), (stop, range.2)]

/-- The sequence for a range that needs no cut: the bytes of its ends. -/
def bytesOfEnds (range : Nat × Nat) : List ByteRange :=
  (String.utf8EncodeChar (Char.ofNat range.1)).zip (String.utf8EncodeChar (Char.ofNat range.2))

/-- The sequences for a range, in ascending order. -/
def sequencesOf (range : Nat × Nat) : List (List ByteRange) :=
  let pieces := [0xD7FF, 0x7F, 0x7FF, 0xFFFF].foldl
    (fun pieces code => pieces.flatMap (cutBehind code)) [range]
  pieces.flatMap fun piece =>
    if piece.2 ≤ 0x7F then [bytesOfEnds piece]
    else
      let blocks := [0x40, 0x1000, 0x40000].foldl
        (fun pieces size => pieces.flatMap (cutAtBlocks size)) [piece]
      blocks.map bytesOfEnds

/-- The sequences for a set, in ascending order. -/
def sequences (ranges : CodeRanges) : List (List ByteRange) := ranges.flatMap sequencesOf

end CodeRanges

end BehaviorDiff
