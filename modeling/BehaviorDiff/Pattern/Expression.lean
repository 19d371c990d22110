import BehaviorDiff.Pattern.Fault

set_option autoImplicit false

/-!
Patterns as they are written: what stands where, before flags and names have a meaning.
-/

namespace BehaviorDiff.Pattern

/-- What a flag changes. -/
inductive Flag where
  | caseInsensitive
  | multiLine
  | dotMatchesNewline
  | swapGreed
  | unicode
  | crlf
  | ignoreBlanks
  deriving DecidableEq, Repr

/-- An entry of a list of flags: flags behind a negation are switched off. -/
inductive FlagItem where
  | negation
  | flag (flag : Flag)
  deriving DecidableEq, Repr

/-- A single character; `isByte` says that it is written as a byte of two digits. -/
structure Literal where
  span : Span
  char : Char
  isByte : Bool
  deriving DecidableEq, Repr

/-- The classes of characters with an escape of their own. -/
inductive EscapeClass where
  | digit
  | space
  | word
  deriving DecidableEq, Repr

/-- The classes of ASCII characters with a name. -/
inductive AsciiClass where
  | alnum
  | alpha
  | ascii
  | blank
  | cntrl
  | digit
  | graph
  | lower
  | print
  | punct
  | space
  | upper
  | word
  | xdigit
  deriving DecidableEq, Repr

/-- The class that a name stands for. -/
def AsciiClass.ofName? : String → Option AsciiClass
  | "alnum" => some alnum
  | "alpha" => some alpha
  | "ascii" => some ascii
  | "blank" => some blank
  | "cntrl" => some cntrl
  | "digit" => some digit
  | "graph" => some graph
  | "lower" => some lower
  | "print" => some print
  | "punct" => some punct
  | "space" => some space
  | "upper" => some upper
  | "word" => some word
  | "xdigit" => some xdigit
  | _ => none

/-- A set of characters named by a property. -/
inductive PropertyQuery where
  | named (name : String)
  | valued (name value : String) (negated : Bool)
  deriving DecidableEq, Repr

/-- How two sets of characters are joined. -/
inductive SetOperation where
  | intersection
  | difference
  | symmetricDifference
  deriving DecidableEq, Repr

/-- A set of characters. -/
inductive ClassSet where
  | empty (span : Span)
  | literal (literal : Literal)
  | range (span : Span) (first last : Literal)
  | ascii (span : Span) (negated : Bool) (kind : AsciiClass)
  | property (span : Span) (negated : Bool) (query : PropertyQuery)
  | escape (span : Span) (negated : Bool) (kind : EscapeClass)
  | bracketed (span : Span) (negated : Bool) (inner : ClassSet)
  | union (span : Span) (items : List ClassSet)
  | binary (span : Span) (operation : SetOperation) (left right : ClassSet)

/-- The part of the pattern that a set takes up. -/
def ClassSet.span : ClassSet → Span
  | .literal item => item.span
  | empty span | range span _ _ | ascii span _ _ | property span _ _ | escape span _ _
  | bracketed span _ _ | union span _ | binary span _ _ _ => span

/-- Conditions on a position. -/
inductive Assertion where
  | lineStart
  | lineEnd
  | textStart
  | textEnd
  | wordBoundary
  | notWordBoundary
  | wordStart
  | wordEnd
  | wordStartHalf
  | wordEndHalf
  deriving DecidableEq, Repr

/-- What parentheses are for: to remember what lies between them, or to set flags for it. -/
inductive GroupKind where
  | capturing
  | scoped (flags : List FlagItem)
  deriving DecidableEq, Repr

/-- A pattern or a part of one. -/
inductive Expression where
  | empty (span : Span)
  | flags (span : Span) (items : List FlagItem)
  | literal (literal : Literal)
  | dot (span : Span)
  | assertion (span : Span) (kind : Assertion)
  | property (span : Span) (negated : Bool) (query : PropertyQuery)
  | escape (span : Span) (negated : Bool) (kind : EscapeClass)
  | bracketed (span : Span) (negated : Bool) (inner : ClassSet)
  | repetition (span : Span) (inner : Expression) (least : Nat) (most : Option Nat) (greedy : Bool)
  | group (span : Span) (kind : GroupKind) (inner : Expression)
  | alternation (span : Span) (branches : List Expression)
  | concat (span : Span) (items : List Expression)

/-- The part of the pattern that an expression takes up. -/
def Expression.span : Expression → Span
  | .literal item => item.span
  | empty span | flags span _ | dot span | assertion span _ | property span _ _ | escape span _ _
  | bracketed span _ _ | repetition span _ _ _ _ | group span _ _ | alternation span _
  | concat span _ => span

/-- The state that a list of flags asks for, if it speaks of a flag. -/
def flagState? (flag : Flag) (items : List FlagItem) : Option Bool :=
  (items.foldl
    (fun (state : Bool × Option Bool) item =>
      match item with
      | .negation => (false, state.2)
      | .flag other => if other = flag then (state.1, state.2.or (some state.1)) else state)
    (true, none)).2

/-- A sequence of expressions as one expression. -/
def Expression.ofItems (span : Span) : List Expression → Expression
  | [] => .empty span
  | [item] => item
  | items => .concat span items

/-- A row of sets as one set. -/
def ClassSet.ofItems (span : Span) : List ClassSet → ClassSet
  | [] => .empty span
  | [item] => item
  | items =>
    match items.head?, items.getLast? with
    | some first, some last => .union ⟨first.span.start, last.span.stop⟩ items
    | _, _ => .union span items

mutual

/-- The first part, outside before inside, that lies deeper than a limit. -/
def ClassSet.tooDeep? (depth limit : Nat) : ClassSet → Option Span
  | bracketed span _ inner => if depth ≥ limit then some span else tooDeep? (depth + 1) limit inner
  | union span items =>
    if depth ≥ limit then some span else ClassSet.anyTooDeep? (depth + 1) limit items
  | binary span _ left right =>
    if depth ≥ limit then some span
    else (tooDeep? (depth + 1) limit left).or (tooDeep? (depth + 1) limit right)
  | _ => none

/-- The first part in a row of sets that lies deeper than a limit. -/
def ClassSet.anyTooDeep? (depth limit : Nat) : List ClassSet → Option Span
  | [] => none
  | item :: rest => (ClassSet.tooDeep? depth limit item).or (ClassSet.anyTooDeep? depth limit rest)

end

mutual

/-- The first part, outside before inside, that lies deeper than a limit. -/
def Expression.tooDeep? (depth limit : Nat) : Expression → Option Span
  | bracketed span _ inner =>
    if depth ≥ limit then some span else inner.tooDeep? (depth + 1) limit
  | repetition span inner _ _ _ | group span _ inner =>
    if depth ≥ limit then some span else tooDeep? (depth + 1) limit inner
  | alternation span items | concat span items =>
    if depth ≥ limit then some span else Expression.anyTooDeep? (depth + 1) limit items
  | _ => none

/-- The first part in a row of expressions that lies deeper than a limit. -/
def Expression.anyTooDeep? (depth limit : Nat) : List Expression → Option Span
  | [] => none
  | item :: rest =>
    (Expression.tooDeep? depth limit item).or (Expression.anyTooDeep? depth limit rest)

end

end BehaviorDiff.Pattern
