import BehaviorDiff.Pattern.Normal
import BehaviorDiff.Unicode.ByteSequence
import Std.Data.HashMap

set_option autoImplicit false

/-!
The room that the automaton of a matcher takes. An automaton reads bytes. It is built state by
state, once for reading forward and once for reading backward, and a counted repetition stands for
that many copies of its inside, so a short pattern can ask for a huge automaton. Only the states are
counted here: each takes the same room, and some hold a list in addition.
-/

namespace BehaviorDiff.Pattern

/-- The room taken so far: the number of states, and the bytes of the lists that they hold. The
number of states is also the number of the next state. -/
structure Room where
  states : Nat
  lists : Nat
  deriving DecidableEq, Repr

namespace Room

/-- The bytes that an automaton may take. -/
def limit : Nat := 10485760

/-- The bytes of a state without its list. -/
def stateSize : Nat := 32

/-- The bytes of a way to a next state in a list of ways for ranges of bytes. -/
def waySize : Nat := 8

/-- The bytes of a next state in a list of states to choose from. -/
def choiceSize : Nat := 4

/-- The bytes taken. -/
def bytes (room : Room) : Nat := room.states * stateSize + room.lists

/-- Whether an automaton is larger than it may be. -/
def isTooLarge (room : Room) : Bool := limit < room.bytes

/-- The room with more states that hold no lists. -/
def withStates (count : Nat) (room : Room) : Room := { room with states := room.states + count }

/-- The room with one more state that has ways for ranges of bytes. -/
def withWays (count : Nat) (room : Room) : Room :=
  ⟨room.states + 1, room.lists + count * waySize⟩

/-- The room with one more state that chooses between next states. -/
def withChoice (count : Nat) (room : Room) : Room :=
  ⟨room.states + 1, room.lists + count * choiceSize⟩

/-- Takes room again and again, until too much is taken. -/
def times (step : Room → Room) : Nat → Room → Room
  | 0, room => room
  | count + 1, room => if room.isTooLarge then room else times step count (step room)

end Room

/-- A way for a range of bytes to a next state. -/
structure Way where
  range : ByteRange
  next : Nat
  deriving DecidableEq, Repr

namespace Way

/-- Mixes numbers into a number that differs for most of them. -/
def mix (numbers : List UInt64) : UInt64 :=
  numbers.foldl (fun hash number => (hash ^^^ number) * 1099511628211) 14695981039346656037

/-- The numbers of a way. -/
def numbers (way : Way) : List UInt64 :=
  [way.range.1.toUInt64, way.range.2.toUInt64, way.next.toUInt64]

end Way

/-- The states that were built for a set and can be used again, by a number mixed from their ways. A
state takes the place of an earlier one with the same number. -/
abbrev Shared := Std.HashMap UInt64 (List Way × Nat)

/-- Takes room while states of a set are shared. -/
abbrev Building := StateM (Room × Shared)

namespace Building

/-- The number of a state with some ways: that of an equal one that is remembered, or of a new one.
So many places are there to remember states. -/
def stateFor (places : UInt64) (add : Room → Room) (ways : List Way) (hash : UInt64) :
    Building Nat :=
  modifyGet fun (room, shared) =>
    let known := (shared[hash % places]?).bind fun (ways', state) =>
      if ways' = ways then some state else none
    match known with
    | some state => (state, room, shared)
    | none => (room.states, add room, shared.insert (hash % places) (ways, room.states))

/-- A state that is still to be built: the ways that are known, the last one first, and the range of
one whose next state is still to be built too. -/
structure Draft where
  done : List Way
  last? : Option ByteRange

/-- Draws the last way of a draft to a state. -/
def Draft.leadTo (draft : Draft) (next : Nat) : Draft :=
  match draft.last? with
  | some range => ⟨⟨range, next⟩ :: draft.done, none⟩
  | none => draft

/-- Builds the state of a draft. -/
def forward (draft : Draft) : Building Nat :=
  let ways := draft.done.reverse
  stateFor 10000 (·.withWays ways.length) ways (Way.mix (ways.flatMap Way.numbers))

/-- Builds the states of drafts that follow each other up to a target. -/
def finish (target : Nat) : List Draft → Building Nat
  | [] => return target
  | draft :: deeper => do forward (draft.leadTo (← finish target deeper))

/-- Adds a sequence to drafts. They stay drafts as long as the sequence goes on like the last one;
what was still to be built behind that is built. -/
def add (target : Nat) : List Draft → List ByteRange → Building (List Draft)
  | draft :: deeper, range :: ranges =>
    if draft.last? = some range then return draft :: (← add target deeper ranges)
    else do
      let draft := draft.leadTo (← finish target deeper)
      return { draft with last? := some range } :: ranges.map fun range => ⟨[], some range⟩
  | _, ranges => return ranges.map fun range => ⟨[], some range⟩

/-- Builds the states of a set from its sequences, from the first byte to the last. -/
def allForward (target : Nat) (sequences : List (List ByteRange)) : Building Unit := do
  let drafts ← sequences.foldlM (add target) [⟨[], none⟩]
  let _ ← finish target drafts

/-- Builds the states of a sequence, from the last byte to the first. -/
def backward (target : Nat) (sequence : List ByteRange) : Building Nat :=
  sequence.foldlM
    (fun next range =>
      let way : Way := ⟨range, next⟩
      stateFor 1000 (·.withStates 1) [way]
        (Way.mix [way.next.toUInt64, range.1.toUInt64, range.2.toUInt64]))
    target

end Building

namespace Room

/-- The room with a set: one state if all its members are ASCII, else states for sequences of bytes.
-/
def withSet (reversed : Bool) (members : CodeRanges) (room : Room) : Room :=
  if members.all (·.2 ≤ 0x7F) then (room.withStates 1).withWays members.length
  else
    let sequences := members.sequences
    if reversed then
      let room := (room.withChoice sequences.length).withStates 1
      ((sequences.forM fun sequence => do
        let _ ← Building.backward (room.states - 1) sequence).run (room, ∅)).2.1
    else
      let room := room.withStates 1
      ((Building.allForward (room.states - 1) sequences).run (room, ∅)).2.1

/-- Splits words at those that are empty. -/
def splitAtEmpty : List (List UInt8) → List (List (List UInt8))
  | [] => [[]]
  | word :: rest =>
    match word, splitAtEmpty rest with
    | [], parts => [] :: parts
    | _, part :: parts => (word :: part) :: parts
    | _, [] => [[word]]

/-- The first bytes of words, each once. -/
def firstBytes (words : List (List UInt8)) : List UInt8 := (words.filterMap List.head?).eraseDups

/-- What follows a byte in the words that begin with it. -/
def behindByte (byte : UInt8) (words : List (List UInt8)) : List (List UInt8) :=
  words.filterMap fun word => if word.head? = some byte then some word.tail else none

/-- The room with a tree of words, none of them longer than `depth`. A word that ends where others
go on parts the ways of those in front of it from the ways of those behind it; a second end counts
only if there are ways in front of it. -/
def withTree : Nat → List (List UInt8) → Room → Room
  | 0, _, room => room
  | depth + 1, words, room =>
    let words := match words.dropWhile List.isEmpty with
      | rest => if rest.length < words.length then [] :: rest else rest
    let parts := splitAtEmpty words
    let room := parts.foldl
      (fun room part =>
        let bytes := firstBytes part
        let room := bytes.foldl
          (fun room byte =>
            let rests := behindByte byte part
            if rests.all List.isEmpty then room else withTree depth rests room)
          room
        match bytes.length with
        | 0 => room
        | 1 => room.withStates 1
        | count => room.withWays count)
      room
    room.withChoice ((parts.filter (!·.isEmpty)).length + (parts.length - 1))

/-- The bytes of a text in UTF-8. -/
def bytesOf (chars : List Char) : List UInt8 := chars.flatMap String.utf8EncodeChar

end Room

/-- The characters of a text. -/
def Matcher.text? : Matcher → Option (List Char)
  | .text chars => some chars
  | _ => none

/-- The room with a choice between several matchers, the first two of which have been added. -/
def Room.closeChoice (count : Nat) (room : Room) : Room := (room.withChoice count).withStates 1

mutual

/-- The room with the automaton of a matcher. -/
def Matcher.room (reversed : Bool) : Matcher → Room → Room
  | .empty, room | .place _, room => room.withStates 1
  | .text chars, room => room.withStates (Room.bytesOf chars).length
  | .set _ members, room => room.withSet reversed members
  | .repeated inner least most _, room =>
    let step := Matcher.room reversed inner
    match most with
    | none =>
      match least with
      | 0 =>
        if (inner.shortest?.getD 0) > 0 then step (room.withChoice 2)
        else (((step room).withChoice 2).withChoice 2).withStates 1
      | _ => (Room.times step least room).withChoice 2
    | some most =>
      if least = 0 ∧ most = 1 then (step (room.withChoice 2)).withStates 1
      else
        let room :=
          if least = 0 then room.withStates 1 else Room.times step least room
        if least = most then room
        else Room.times (fun room => step (room.withChoice 2)) (most - least) (room.withStates 1)
  | .captured _ inner, room =>
    if reversed then Matcher.room reversed inner room
    else (Matcher.room reversed inner (room.withStates 1)).withStates 1
  | .sequence items, room => Matcher.rowRoom reversed items room
  | .either branches, room =>
    match branches.mapM Matcher.text? with
    | some texts =>
      let words := texts.map fun chars =>
        if reversed then (Room.bytesOf chars).reverse else Room.bytesOf chars
      let depth := words.foldl (fun depth word => max depth word.length) 0
      Room.withTree (depth + 1) words (room.withStates 1)
    | none => Matcher.anyRoom reversed 0 branches room

/-- The room with automata that follow each other, built in the order in which they read. -/
def Matcher.rowRoom (reversed : Bool) : List Matcher → Room → Room
  | [], room => room
  | item :: rest, room =>
    if reversed then Matcher.room reversed item (Matcher.rowRoom reversed rest room)
    else Matcher.rowRoom reversed rest (Matcher.room reversed item room)

/-- The room with automata to choose from, of which some have been built. The state that chooses is
built behind the second one. -/
def Matcher.anyRoom (reversed : Bool) (built : Nat) : List Matcher → Room → Room
  | [], room => room
  | branch :: rest, room =>
    let room := Matcher.room reversed branch room
    let room := if built = 1 then room.closeChoice (rest.length + 2) else room
    Matcher.anyRoom reversed (built + 1) rest room

end

/-- The room of a whole automaton: states that pass over the text in front of a match unless it is
anchored, the automaton itself, and the state for a match. -/
def Matcher.fullRoom (matcher : Matcher) (reversed : Bool) : Room :=
  let isAnchored := if reversed then matcher.isAnchoredAtEnd else matcher.isAnchoredAtStart
  let start : Room := ⟨0, 0⟩
  let start := if isAnchored then start.withStates 1
    else ((start.withChoice 2).withStates 1).withWays 1
  (Matcher.room reversed (.captured 0 matcher) start).withStates 1

/-- Whether the automaton of a matcher would be larger than it may be, in one of its directions. -/
def Matcher.isTooLarge (matcher : Matcher) : Bool :=
  (matcher.fullRoom false).isTooLarge || (matcher.fullRoom true).isTooLarge

end BehaviorDiff.Pattern
