import BehaviorDiff.Pattern.Normal
import BehaviorDiff.Pattern.Reader
import BehaviorDiff.Pattern.Room
import BehaviorDiff.Unicode.CaseFolding
import BehaviorDiff.Unicode.Property

set_option autoImplicit false

/-!
The matcher that a pattern stands for. Flags hold from where they are set to the end of the group
around them, also in later branches. Without the Unicode flag a set holds bytes, and one that
reaches beyond ASCII is refused because it could match a part of a character.
-/

namespace BehaviorDiff.Pattern

/-- The flags that change what an expression matches. -/
structure Flags where
  caseInsensitive : Bool
  multiLine : Bool
  dotMatchesNewline : Bool
  swapGreed : Bool
  unicode : Bool
  crlf : Bool
  deriving DecidableEq, Repr

namespace Flags

/-- The flags that hold before any are set. -/
def start : Flags := ⟨false, false, false, false, true, false⟩

/-- The flags after a list of them. -/
def apply (flags : Flags) (items : List FlagItem) : Flags where
  caseInsensitive := (flagState? .caseInsensitive items).getD flags.caseInsensitive
  multiLine := (flagState? .multiLine items).getD flags.multiLine
  dotMatchesNewline := (flagState? .dotMatchesNewline items).getD flags.dotMatchesNewline
  swapGreed := (flagState? .swapGreed items).getD flags.swapGreed
  unicode := (flagState? .unicode items).getD flags.unicode
  crlf := (flagState? .crlf items).getD flags.crlf

/-- The highest code point of a set, or the highest byte. -/
def highest (flags : Flags) : Nat := if flags.unicode then Unicode.highest else 0xFF

/-- A set together with the variants of its members, if case does not count. -/
def fold (flags : Flags) (set : CodeRanges) : CodeRanges :=
  if !flags.caseInsensitive then set
  else Unicode.withVariants
    (if flags.unicode then Unicode.caseGroups else Unicode.asciiCaseGroups) set

/-- The complement of a set if one is asked for. -/
def negate (flags : Flags) (negated : Bool) (set : CodeRanges) : CodeRanges :=
  if negated then set.complement flags.highest else set

/-- A set that reaches beyond ASCII needs the Unicode flag. -/
def checked (flags : Flags) (span : Span) (set : CodeRanges) : Except Complaint CodeRanges :=
  if flags.unicode || set.all (·.2 ≤ 0x7F) then .ok set else .error ⟨span, none, .invalidUtf8⟩

/-- A set with the variants of its members, or the complement of that. -/
def completed (flags : Flags) (span : Span) (negated : Bool) (set : CodeRanges) :
    Except Complaint CodeRanges :=
  flags.checked span (flags.negate negated (flags.fold set))

/-- The matcher of a set. -/
def setMatcher (flags : Flags) (set : CodeRanges) : Matcher := .ofSet (!flags.unicode) set

/-- The matcher of a single character: a text, or the set of its variants if there are any. -/
def literal (flags : Flags) (item : Literal) : Except Complaint Matcher :=
  if !flags.unicode && item.isByte && item.char.toNat > 0x7F then
    .error ⟨item.span, none, .invalidUtf8⟩
  else .ok (flags.setMatcher (flags.fold [(item.char.toNat, item.char.toNat)]))

/-- The code of a character in a set. -/
def codeInSet (flags : Flags) (item : Literal) : Except Complaint Nat :=
  if flags.unicode || item.char.toNat ≤ 0x7F then .ok item.char.toNat
  else .error ⟨item.span, none, if item.isByte then .invalidUtf8 else .unicodeNotAllowed⟩

/-- The set that a property names. -/
def property (flags : Flags) (span : Span) (negated : Bool) (query : PropertyQuery) :
    Except Complaint CodeRanges := do
  if !flags.unicode then throw ⟨span, none, .unicodeNotAllowed⟩
  let set := match query with
    | .named name => Unicode.propertySet name
    | .valued name value _ => Unicode.propertyValueSet name value
  let isDenied := match query with
    | .named _ => negated
    | .valued _ _ differs => negated != differs
  match set with
  | .ok set => flags.completed span isDenied set
  | .error .noProperty => throw ⟨span, none, .propertyNotFound⟩
  | .error .noValue => throw ⟨span, none, .propertyValueNotFound⟩

/-- The members of an escape of ASCII. -/
def asciiEscape : EscapeClass → CodeRanges
  | .digit => .ofText "30-39"
  | .space => .ofText "9-D 20"
  | .word => .ofText "30-39 41-5A 5F 61-7A"

/-- The members of an escape of Unicode. -/
def unicodeEscape : EscapeClass → CodeRanges
  | .digit => Unicode.digit
  | .space => Unicode.whiteSpace
  | .word => Unicode.word

/-- The set of an escape. -/
def escape (flags : Flags) (span : Span) (negated : Bool) (kind : EscapeClass) :
    Except Complaint CodeRanges :=
  let set := if flags.unicode then unicodeEscape kind else asciiEscape kind
  flags.checked span (flags.negate negated set)

/-- The characters that a dot matches. -/
def dot (flags : Flags) (span : Span) : Except Complaint CodeRanges :=
  if !flags.unicode then .error ⟨span, none, .invalidUtf8⟩
  else
    let ends := if flags.dotMatchesNewline then "" else if flags.crlf then "A D" else "A"
    .ok (CodeRanges.complement flags.highest (.ofText ends))

/-- The condition of an assertion. -/
def condition (flags : Flags) : Assertion → Condition
  | .textStart => .textStart
  | .textEnd => .textEnd
  | .lineStart => if flags.multiLine then .lineStart flags.crlf else .textStart
  | .lineEnd => if flags.multiLine then .lineEnd flags.crlf else .textEnd
  | .wordBoundary => .word flags.unicode .boundary
  | .notWordBoundary => .word flags.unicode .inside
  | .wordStart => .word flags.unicode .start
  | .wordEnd => .word flags.unicode .stop
  | .wordStartHalf => .word flags.unicode .startHalf
  | .wordEndHalf => .word flags.unicode .stopHalf

end Flags

/-- The members of a named class of ASCII characters. -/
def AsciiClass.members : AsciiClass → CodeRanges
  | alnum => .ofText "30-39 41-5A 61-7A"
  | alpha => .ofText "41-5A 61-7A"
  | ascii => .ofText "0-7F"
  | blank => .ofText "9 20"
  | cntrl => .ofText "0-1F 7F"
  | digit => .ofText "30-39"
  | graph => .ofText "21-7E"
  | lower => .ofText "61-7A"
  | print => .ofText "20-7E"
  | punct => .ofText "21-2F 3A-40 5B-60 7B-7E"
  | space => .ofText "9-D 20"
  | upper => .ofText "41-5A"
  | word => .ofText "30-39 41-5A 5F 61-7A"
  | xdigit => .ofText "30-39 41-46 61-66"

/-- Joins the members of two sets. -/
def SetOperation.join (operation : SetOperation) (highest : Nat) (left right : CodeRanges) :
    CodeRanges :=
  match operation with
  | intersection => left.intersection highest right
  | difference => left.difference highest right
  | symmetricDifference => left.symmetricDifference highest right

mutual

/-- The members of a set. -/
def ClassSet.members (flags : Flags) : ClassSet → Except Complaint CodeRanges
  | empty _ => return []
  | literal item => do
    let code ← flags.codeInSet item
    return [(code, code)]
  | range _ first last => return [(← flags.codeInSet first, ← flags.codeInSet last)]
  | ascii span negated kind => flags.completed span negated kind.members
  | property span negated query => flags.property span negated query
  | escape span negated kind => flags.escape span negated kind
  | bracketed span negated inner => do
    flags.completed span negated (← ClassSet.members flags inner)
  | union _ items => return .ofList (← ClassSet.allMembers flags items)
  | binary _ operation left right => do
    let left ← ClassSet.members flags left
    let right ← ClassSet.members flags right
    return operation.join flags.highest (flags.fold left) (flags.fold right)

/-- The members of several sets, one set behind the other. -/
def ClassSet.allMembers (flags : Flags) : List ClassSet → Except Complaint (List (Nat × Nat))
  | [] => return []
  | item :: rest => return (← ClassSet.members flags item) ++ (← ClassSet.allMembers flags rest)

end

/-- What is known while an expression is gone through: the flags that hold, and the number of the
last group that was opened. -/
structure Surroundings where
  flags : Flags
  groups : Nat

/-- A step through an expression. -/
abbrev Meaning := StateT Surroundings (Except Complaint)

/-- The flags that hold. -/
def currentFlags : Meaning Flags := return (← get).flags

/-- Sets flags. -/
def setFlags (flags : Flags) : Meaning Unit := modify fun around => { around with flags }

/-- The number of a group that is opened. -/
def nextGroup : Meaning Nat :=
  modifyGet fun around => (around.groups + 1, { around with groups := around.groups + 1 })

mutual

/-- The matcher that an expression stands for. -/
def Expression.matcher : Expression → Meaning Matcher
  | empty _ => return .empty
  | flags _ items => do
    setFlags ((← currentFlags).apply items)
    return .empty
  | literal item => do (← currentFlags).literal item
  | dot span => do
    let flags ← currentFlags
    return flags.setMatcher (← flags.dot span)
  | assertion _ kind => return .place ((← currentFlags).condition kind)
  | property span negated query => do
    let flags ← currentFlags
    return flags.setMatcher (← flags.property span negated query)
  | escape span negated kind => do
    let flags ← currentFlags
    return flags.setMatcher (← flags.escape span negated kind)
  | bracketed span negated inner => do
    let flags ← currentFlags
    return flags.setMatcher (← flags.completed span negated (← inner.members flags))
  | repetition _ inner least most greedy => do
    let swapGreed := (← currentFlags).swapGreed
    return .ofRounds (← Expression.matcher inner) least most (greedy != swapGreed)
  | group _ .capturing inner => do
    let number ← nextGroup
    let outside ← currentFlags
    let matcher ← Expression.matcher inner
    setFlags outside
    return .captured number matcher
  | group _ (.scoped items) inner => do
    let outside ← currentFlags
    setFlags (outside.apply items)
    let matcher ← Expression.matcher inner
    setFlags outside
    return matcher
  | alternation _ branches => return .ofChoice (← Expression.matchers branches)
  | concat _ items => return .ofItems (← Expression.matchers items)

/-- The matchers of several expressions. -/
def Expression.matchers : List Expression → Meaning (List Matcher)
  | [] => return []
  | item :: rest => do
    let first ← Expression.matcher item
    return first :: (← Expression.matchers rest)

end

/-- The matcher of a pattern. The room it would take is looked at last. -/
def Matcher.ofPattern (pattern : String) : Except PatternError Matcher := do
  let expression ← (Expression.read pattern).mapError (.malformed pattern ·)
  let (matcher, _) ← (expression.matcher.run ⟨Flags.start, 0⟩).mapError (.malformed pattern ·)
  if matcher.isTooLarge then throw (.tooLarge Room.limit)
  return matcher

end BehaviorDiff.Pattern
