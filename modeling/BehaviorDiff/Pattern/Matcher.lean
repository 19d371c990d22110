import BehaviorDiff.Unicode.CodeRanges
import BehaviorDiff.Unicode.Word

set_option autoImplicit false

/-!
Where parts of a text match. A matcher turns the places at which a match may begin into the places
at which it may end.
-/

namespace BehaviorDiff.Pattern

/-- Conditions on the words on both sides of a place. -/
inductive WordEdge where
  | boundary
  | inside
  | start
  | stop
  | startHalf
  | stopHalf
  deriving DecidableEq, Repr

/-- Conditions on a place. Lines end with a line feed, or with `crlf` also with a carriage return;
letters are those of Unicode or those of ASCII. -/
inductive Condition where
  | textStart
  | textEnd
  | lineStart (crlf : Bool)
  | lineEnd (crlf : Bool)
  | word (unicode : Bool) (edge : WordEdge)
  deriving DecidableEq, Repr

/-- Whether a character is a letter, digit or connector in ASCII. -/
def isAsciiWord (c : Char) : Bool := c.isAlphanum || c = '_'

/-- Whether a condition holds between two characters; there is none outside of the text. -/
def Condition.holds (condition : Condition) (before after : Option Char) : Bool :=
  match condition with
  | textStart => before.isNone
  | textEnd => after.isNone
  | lineStart crlf =>
    before.isNone || before = some '\n' || (crlf && before = some '\r' && after ≠ some '\n')
  | lineEnd crlf =>
    after.isNone ||
      if crlf then after = some '\r' || (after = some '\n' && before ≠ some '\r')
      else after = some '\n'
  | word unicode edge =>
    let isWord (side : Option Char) : Bool :=
      (side.map fun c =>
        if unicode then Unicode.word.contains c.toNat else isAsciiWord c).getD false
    match edge with
    | .boundary => isWord before != isWord after
    | .inside => isWord before == isWord after
    | .start => !isWord before && isWord after
    | .stop => isWord before && !isWord after
    | .startHalf => !isWord before
    | .stopHalf => !isWord after

/-- What is searched in a text. A set may hold bytes instead of characters, which are then those of
ASCII. A match may take few or many rounds of a repetition first, and groups have numbers; neither
has a say in where matches lie. -/
inductive Matcher where
  | empty
  | text (chars : List Char)
  | set (ofBytes : Bool) (members : CodeRanges)
  | place (condition : Condition)
  | repeated (inner : Matcher) (least : Nat) (most : Option Nat) (greedy : Bool)
  | captured (number : Nat) (inner : Matcher)
  | sequence (items : List Matcher)
  | either (branches : List Matcher)

/-- A mark for every place of a text: before its first character, between two, behind the last. -/
abbrev Marks := List Bool

namespace Matcher

/-- Every place of a text. -/
def everywhere (text : List Char) : Marks := true :: text.map fun _ => true

/-- The places that one of two rows marks. -/
def join (left right : Marks) : Marks := List.zipWith (· || ·) left right

/-- Takes a step again and again. -/
def times (step : Marks → Marks) : Nat → Marks → Marks
  | 0, marks => marks
  | count + 1, marks => times step count (step marks)

/-- Takes a step at most so many times. -/
def upTo (step : Marks → Marks) : Nat → Marks → Marks
  | 0, marks => marks
  | count + 1, marks => join marks (upTo step count (step marks))

/-- The places at which a condition holds, from the character before a text. -/
def placesWhere (condition : Condition) (before : Option Char) : List Char → Marks
  | [] => [condition.holds before none]
  | c :: rest => condition.holds before (some c) :: placesWhere condition (some c) rest

/-- The places behind marked places with a character of a class between them. -/
def behind (text : List Char) (accept : Char → Bool) (marks : Marks) : Marks :=
  false :: List.zipWith (fun mark c => mark && accept c) marks text

mutual

/-- The ends of the matches that begin at marked places. A text of `n` characters has `n + 1` places
and matches never go back, so after `n + 1` steps of a repetition further steps find nothing new. -/
def ends (text : List Char) : Matcher → Marks → Marks
  | empty, marks => marks
  | .text chars, marks => chars.foldl (fun marks c => behind text (· = c) marks) marks
  | .set _ members, marks => behind text (fun c => members.contains c.toNat) marks
  | place condition, marks => List.zipWith (· && ·) marks (placesWhere condition none text)
  | repeated inner least most _, marks =>
    let enough := text.length + 1
    let more := match most with
      | some count => min (count - least) enough
      | none => enough
    upTo (ends text inner) more (times (ends text inner) (min least enough) marks)
  | captured _ inner, marks => ends text inner marks
  | sequence items, marks => rowEnds text items marks
  | either branches, marks => anyEnds text branches marks

/-- The ends of matches that follow each other. -/
def rowEnds (text : List Char) : List Matcher → Marks → Marks
  | [], marks => marks
  | item :: rest, marks => rowEnds text rest (ends text item marks)

/-- The ends of the matches of one of several. -/
def anyEnds (text : List Char) : List Matcher → Marks → Marks
  | [], marks => marks.map fun _ => false
  | branch :: rest, marks => join (ends text branch marks) (anyEnds text rest marks)

end

/-- Whether a match lies anywhere in a text. -/
def occursIn (matcher : Matcher) (text : String) : Bool :=
  (matcher.ends text.toList (everywhere text.toList)).any id

end Matcher

end BehaviorDiff.Pattern
