set_option autoImplicit false

/-!
Sets of code points as lists of closed ranges in ascending order that do not touch, so that a set is
written in one way only. No character has a surrogate as its code point: the last point before the
surrogates and the first one behind them are neighbours. Tables write a set as text: ranges `41-5A`
and single points `AA` in hexadecimal, separated by blanks.
-/

namespace BehaviorDiff

/-- Closed ranges of code points, ascending and apart. -/
abbrev CodeRanges := List (Nat × Nat)

namespace CodeRanges

/-- Whether a code point lies in one of the ranges; the search stops behind the code point. -/
def contains : CodeRanges → Nat → Bool
  | [], _ => false
  | (first, last) :: rest, code =>
    if code < first then false else code ≤ last || contains rest code

/-- The code point behind a code point. -/
def next (code : Nat) : Nat := if code = 0xD7FF then 0xE000 else code + 1

/-- The code point in front of a code point. -/
def previous (code : Nat) : Nat := if code = 0xE000 then 0xD7FF else code - 1

/-- Puts a range behind ranges, the last one first, that do not begin behind it. -/
def extend (done : CodeRanges) (range : Nat × Nat) : CodeRanges :=
  match done with
  | (first, last) :: rest =>
    if range.1 ≤ next last then (first, max last range.2) :: rest else range :: done
  | [] => [range]

/-- The set of the code points in ranges of any order. -/
def ofList (ranges : List (Nat × Nat)) : CodeRanges :=
  ((ranges.mergeSort fun left right => left.1 ≤ right.1).foldl extend []).reverse

/-- The members of two sets. -/
def union (left right : CodeRanges) : CodeRanges := ofList (left ++ right)

/-- What ranges leave out from a code point up to another one. -/
def gaps (highest start : Nat) : CodeRanges → CodeRanges
  | [] => if start ≤ highest then [(start, highest)] else []
  | (first, last) :: rest =>
    let others := gaps highest (next last) rest
    if start < first then (start, previous first) :: others else others

/-- The code points up to a highest one that are not in a set. -/
def complement (highest : Nat) (ranges : CodeRanges) : CodeRanges := gaps highest 0 ranges

/-- The members that two sets share. -/
def intersection (highest : Nat) (left right : CodeRanges) : CodeRanges :=
  complement highest (union (complement highest left) (complement highest right))

/-- The members of the first set that are not in the second. -/
def difference (highest : Nat) (left right : CodeRanges) : CodeRanges :=
  complement highest (union (complement highest left) right)

/-- The members of just one of two sets. -/
def symmetricDifference (highest : Nat) (left right : CodeRanges) : CodeRanges :=
  difference highest (union left right) (intersection highest left right)

/-- The value of a hexadecimal digit. -/
def hexDigit? (c : Char) : Option Nat :=
  if '0' ≤ c ∧ c ≤ '9' then some (c.toNat - '0'.toNat)
  else if 'A' ≤ c ∧ c ≤ 'F' then some (c.toNat - 'A'.toNat + 10)
  else if 'a' ≤ c ∧ c ≤ 'f' then some (c.toNat - 'a'.toNat + 10)
  else none

/-- What has been read of a table: the ranges, the last one first, and the range in progress. -/
private structure Reading where
  done : CodeRanges
  first? : Option Nat
  current? : Option Nat

/-- Ends the range in progress. -/
private def Reading.close (reading : Reading) : CodeRanges :=
  match reading.first?, reading.current? with
  | some first, some last => (first, last) :: reading.done
  | none, some point => (point, point) :: reading.done
  | _, none => reading.done

private def Reading.step (reading : Reading) (c : Char) : Reading :=
  match hexDigit? c with
  | some digit => { reading with current? := some (reading.current?.getD 0 * 16 + digit) }
  | none =>
    if c = '-' then { reading with first? := reading.current?, current? := none }
    else ⟨reading.close, none, none⟩

/-- The ranges that a table lists. -/
def ofText (text : String) : CodeRanges :=
  (text.toList.foldl Reading.step ⟨[], none, none⟩).close.reverse

end CodeRanges

end BehaviorDiff
