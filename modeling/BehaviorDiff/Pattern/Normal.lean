import BehaviorDiff.Pattern.Matcher

set_option autoImplicit false

/-!
Matchers in normal form. Each way to put matchers together keeps what they match and leaves out what
is not needed: nothing follows an empty matcher, texts that follow each other are one text, single
characters to choose from are one set, and what all branches begin with stands in front of them.
-/

namespace BehaviorDiff.Pattern.Matcher

/-- The matcher that matches nowhere. -/
def fail : Matcher := .set true []

/-- A set; one with a single member is a text. -/
def ofSet (ofBytes : Bool) (members : CodeRanges) : Matcher :=
  match members with
  | [] => fail
  | [(first, last)] => if first = last then .text [Char.ofNat first] else .set ofBytes members
  | _ => .set ofBytes members

mutual

/-- Whether two matchers are put together in the same way. -/
def same : Matcher → Matcher → Bool
  | empty, empty => true
  | text left, text right => left == right
  | set ofBytes left, set ofBytes' right => ofBytes == ofBytes' && left == right
  | place left, place right => left == right
  | repeated left least most greedy, repeated right least' most' greedy' =>
    least == least' && most == most' && greedy == greedy' && same left right
  | captured number left, captured number' right => number == number' && same left right
  | sequence left, sequence right => sameAll left right
  | either left, either right => sameAll left right
  | _, _ => false

/-- Whether the matchers of two rows are the same, one by one. -/
def sameAll : List Matcher → List Matcher → Bool
  | [], [] => true
  | left :: others, right :: others' => same left right && sameAll others others'
  | _, _ => false

end

/-- Joins two numbers if both are there. -/
def both (operation : Nat → Nat → Nat) : Option Nat → Option Nat → Option Nat
  | some left, some right => some (operation left right)
  | _, _ => none

mutual

/-- The length of the shortest match; a set without members leaves it open. -/
def shortest? : Matcher → Option Nat
  | empty | place _ => some 0
  | text chars => some chars.length
  | set _ members => if members.isEmpty then none else some 1
  | repeated inner least _ _ => (shortest? inner).map (least * ·)
  | captured _ inner => shortest? inner
  | sequence items => rowShortest? items
  | either branches => anyShortest? branches

/-- The length of the shortest match of a row. -/
def rowShortest? : List Matcher → Option Nat
  | [] => some 0
  | item :: rest => both (· + ·) (shortest? item) (rowShortest? rest)

/-- The length of the shortest match of one of several. -/
def anyShortest? : List Matcher → Option Nat
  | [] => none
  | [branch] => shortest? branch
  | branch :: rest => both min (shortest? branch) (anyShortest? rest)

end

mutual

/-- The length of the longest match, if there is a bound; a set without members leaves it open. -/
def longest? : Matcher → Option Nat
  | empty | place _ => some 0
  | text chars => some chars.length
  | set _ members => if members.isEmpty then none else some 1
  | repeated inner _ most _ => both (· * ·) (longest? inner) most
  | captured _ inner => longest? inner
  | sequence items => rowLongest? items
  | either branches => anyLongest? branches

/-- The length of the longest match of a row. -/
def rowLongest? : List Matcher → Option Nat
  | [] => some 0
  | item :: rest => both (· + ·) (longest? item) (rowLongest? rest)

/-- The length of the longest match of one of several. -/
def anyLongest? : List Matcher → Option Nat
  | [] => none
  | [branch] => longest? branch
  | branch :: rest => both max (longest? branch) (anyLongest? rest)

end

/-- Whether a matcher takes up nothing of a text, wherever it matches. -/
def isHollow (matcher : Matcher) : Bool := matcher.longest? == some 0

mutual

/-- Whether every match begins at the start of the text, as far as conditions in front tell. -/
def isAnchoredAtStart : Matcher → Bool
  | place condition => condition = .textStart
  | repeated inner least _ _ => least > 0 && isAnchoredAtStart inner
  | captured _ inner => isAnchoredAtStart inner
  | sequence items => rowAnchoredAtStart items
  | either branches => allAnchoredAtStart branches
  | empty | text _ | set _ _ => false

/-- Whether every match of a row begins at the start of the text: a condition counts up to the first
item that takes up some of the text. -/
def rowAnchoredAtStart : List Matcher → Bool
  | [] => false
  | item :: rest => isAnchoredAtStart item || (item.isHollow && rowAnchoredAtStart rest)

/-- Whether every match of each of several begins at the start of the text. -/
def allAnchoredAtStart : List Matcher → Bool
  | [] => true
  | branch :: rest => isAnchoredAtStart branch && allAnchoredAtStart rest

end

mutual

/-- Whether every match stops at the end of the text, as far as conditions behind tell. -/
def isAnchoredAtEnd : Matcher → Bool
  | place condition => condition = .textEnd
  | repeated inner least _ _ => least > 0 && isAnchoredAtEnd inner
  | captured _ inner => isAnchoredAtEnd inner
  | sequence items => rowAnchoredAtEnd items
  | either branches => allAnchoredAtEnd branches
  | empty | text _ | set _ _ => false

/-- Whether every match of a row stops at the end of the text: a condition counts if no item behind
it takes up some of the text. -/
def rowAnchoredAtEnd : List Matcher → Bool
  | [] => false
  | item :: rest => rowAnchoredAtEnd rest || (rest.all isHollow && isAnchoredAtEnd item)

/-- Whether every match of each of several stops at the end of the text. -/
def allAnchoredAtEnd : List Matcher → Bool
  | [] => true
  | branch :: rest => isAnchoredAtEnd branch && allAnchoredAtEnd rest

end

/-- Puts an item in front of a row: an empty one is left out, and two texts become one. -/
def prepend (item : Matcher) (row : List Matcher) : List Matcher :=
  match item, row with
  | empty, _ => row
  | text first, text second :: rest => .text (first ++ second) :: rest
  | _, _ => item :: row

/-- The items of a row, or a matcher as a row of its own. -/
def items : Matcher → List Matcher
  | sequence items => items
  | matcher => [matcher]

/-- The branches of a choice, or a matcher as the only branch. -/
def branches : Matcher → List Matcher
  | either branches => branches
  | matcher => [matcher]

/-- Matchers that follow each other. -/
def ofItems (row : List Matcher) : Matcher :=
  match (row.flatMap items).foldr prepend [] with
  | [] => .empty
  | [item] => item
  | row => .sequence row

/-- The character of a text of one character. -/
def singleChar? : Matcher → Option Char
  | text [c] => some c
  | _ => none

/-- The members of a set. -/
def members? : Matcher → Option CodeRanges
  | set _ members => some members
  | _ => none

/-- The items of a row of several. -/
def row? : Matcher → Option (List Matcher)
  | sequence items => some items
  | _ => none

/-- The items with which two rows begin alike. -/
def sharedItems : List Matcher → List Matcher → List Matcher
  | left :: others, right :: others' =>
    if same left right then left :: sharedItems others others' else []
  | _, _ => []

/-- The items with which all of some rows begin alike. -/
def commonItems : List (List Matcher) → List Matcher
  | [] => []
  | row :: rows => rows.foldl sharedItems row

/-- A choice between branches that are no choices. Rows that begin alike are split behind what they
share; the rest of each is a matcher that has fewer items, so that `depth` rounds are enough where
no row is longer. -/
def ofBranches (depth : Nat) (branches : List Matcher) : Matcher :=
  match branches with
  | [] => fail
  | [branch] => branch
  | _ =>
    match branches.mapM singleChar? with
    | some chars => ofSet false (.ofList (chars.map fun c => (c.toNat, c.toNat)))
    | none =>
      match branches.mapM members? with
      | some sets => ofSet false (.ofList sets.flatten)
      | none =>
        match depth, branches.mapM row? with
        | depth + 1, some rows =>
          match (commonItems rows).length with
          | 0 => .either branches
          | shared + 1 =>
            let rests := rows.map fun row => ofItems (row.drop (shared + 1))
            ofItems ((commonItems rows) ++
              [ofBranches depth (rests.flatMap Matcher.branches)])
        | _, _ => .either branches

/-- The number of items of the longest row among branches. -/
def rowLength (branches : List Matcher) : Nat :=
  branches.foldl (fun length branch => max length branch.items.length) 0

/-- One of several matchers. -/
def ofChoice (choice : List Matcher) : Matcher :=
  let branches := choice.flatMap branches
  ofBranches (rowLength branches) branches

/-- Rounds of a matcher. What takes up nothing of the text needs one round at most. -/
def ofRounds (inner : Matcher) (least : Nat) (most : Option Nat) (greedy : Bool) : Matcher :=
  let least' := if inner.isHollow then min least 1 else least
  let most' := if inner.isHollow then some (min (most.getD 1) 1) else most
  if least' = 0 ∧ most' = some 0 then .empty
  else if least' = 1 ∧ most' = some 1 then inner
  else .repeated inner least' most' greedy

end BehaviorDiff.Pattern.Matcher
