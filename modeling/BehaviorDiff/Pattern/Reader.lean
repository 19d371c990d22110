import BehaviorDiff.Pattern.Expression
import BehaviorDiff.Unicode.Letter
import BehaviorDiff.Unicode.Word

set_option autoImplicit false

/-!
Reading a pattern. The reader goes through the pattern once; open groups, alternations and bracketed
sets wait on stacks. Every round of a loop takes at least one character away, so the number of the
characters that are left bounds the rounds.
-/

namespace BehaviorDiff.Pattern

/-- How far the reader is, and what it has to remember of what it has read. -/
structure ReaderState where
  rest : List Char
  place : Place
  ignoreBlanks : Bool
  names : List (String × Span)

/-- A step of the reader: it moves on in the pattern, or finds a fault. -/
abbrev Reader := StateT ReaderState (Except Complaint)

namespace Reader

/-- The place behind a character. -/
def placeAfter (place : Place) (c : Char) : Place :=
  if c = '\n' then ⟨place.line + 1, 1⟩ else ⟨place.line, place.column + 1⟩

/-- Ends with a fault in a part of the pattern. -/
def fail {α : Type} (span : Span) (fault : Fault) (earlier : Option Span := none) : Reader α :=
  throw ⟨span, earlier, fault⟩

/-- The current place. -/
def place : Reader Place := return (← get).place

/-- The current character. -/
def current? : Reader (Option Char) := return (← get).rest.head?

/-- Whether the pattern is at its end. -/
def atEnd : Reader Bool := return (← get).rest.isEmpty

/-- The number of characters that are left. -/
def left : Reader Nat := return (← get).rest.length

/-- The empty part at the current place. -/
def here : Reader Span := return ⟨← place, ← place⟩

/-- The part from a place up to the current one. -/
def since (start : Place) : Reader Span := return ⟨start, ← place⟩

/-- The part that the current character takes up. -/
def currentSpan : Reader Span := do
  let state ← get
  return ⟨state.place, (state.rest.head?.map (placeAfter state.place)).getD state.place⟩

/-- Moves on by one character; says whether one is left. -/
def bump : Reader Bool := do
  let state ← get
  match state.rest with
  | [] => return false
  | c :: rest =>
    set { state with rest, place := placeAfter state.place c }
    return !rest.isEmpty

/-- Moves on by a word if the pattern goes on with it. -/
def bumpIf (word : String) : Reader Bool := do
  let state ← get
  if word.toList.isPrefixOf state.rest then
    set { state with
      rest := state.rest.drop word.length
      place := word.toList.foldl placeAfter state.place }
    return true
  else return false

/-- Moves on by the first of several words that the pattern goes on with. -/
def bumpAny : List String → Reader Bool
  | [] => return false
  | word :: others => do
    if ← bumpIf word then return true
    bumpAny others

/-- What follows blanks and comments. -/
def skipBlanks (inComment : Bool) (place : Place) : List Char → List Char × Place
  | [] => ([], place)
  | c :: rest =>
    if inComment then skipBlanks (c ≠ '\n') (placeAfter place c) rest
    else if Unicode.isWhiteSpace c then skipBlanks false (placeAfter place c) rest
    else if c = '#' then skipBlanks true (placeAfter place c) rest
    else (c :: rest, place)

/-- Moves on over blanks and comments where they do not count. -/
def bumpBlanks : Reader Unit := do
  let state ← get
  if state.ignoreBlanks then
    let (rest, place) := skipBlanks false state.place state.rest
    set { state with rest, place }

/-- Moves on by one character and what does not count behind it; says whether one is left. -/
def bumpThrough : Reader Bool := do
  if ← bump then
    bumpBlanks
    return !(← atEnd)
  else return false

/-- The character behind the current one. -/
def peek? : Reader (Option Char) := return ((← get).rest.drop 1).head?

/-- The first character that is no blank and opens no comment; inside a comment, the first one that
is no blank. -/
def firstSolid? (inComment : Bool) : List Char → Option Char
  | [] => none
  | c :: rest =>
    if Unicode.isWhiteSpace c then firstSolid? inComment rest
    else if c = '#' && !inComment then firstSolid? true rest
    else some c

/-- The character that is taken for the next one. Where blanks do not count it may be the first one
of a comment; behind blanks and an open comment alone, it is the one behind the current character.
-/
def peekThrough? : Reader (Option Char) := do
  let state ← get
  let rest := state.rest.drop 1
  if state.ignoreBlanks then return (firstSolid? false rest).or rest.head?
  else return rest.head?

/-- Takes characters of a class. -/
def takeWhile (accept : Char → Bool) (move : Reader Bool) : Nat → Reader (List Char)
  | 0 => return []
  | rounds + 1 => do
    match ← current? with
    | some c =>
      if accept c then
        let _ ← move
        return c :: (← takeWhile accept move rounds)
      else return []
    | none => return []

/-- The value of a row of digits. -/
def numberOf (base : Nat) (digits : List Char) : Nat :=
  digits.foldl (fun value c => value * base + (CodeRanges.hexDigit? c).getD 0) 0

/-- A number of a counted repetition, or what is wrong with it. -/
def decimal : Reader (Except (Span × Fault) Nat) := do
  let _ ← takeWhile Unicode.isWhiteSpace bump (← left)
  let start ← place
  let digits ← takeWhile Char.isDigit bumpThrough (← left)
  let span ← since start
  let _ ← takeWhile Unicode.isWhiteSpace bumpThrough (← left)
  let value := numberOf 10 digits
  if digits.isEmpty then return .error (span, .repetitionCountDecimalEmpty)
  else if value < Nat.pow 2 32 then return .ok value
  else return .error (span, .decimalInvalid)

/-- Whether a character has a meaning of its own in patterns. -/
def isMeta (c : Char) : Bool := "\\.+*?()|[]\x7b\x7d^$#&-~".toList.contains c

/-- Whether a backslash may stand before a character that has no meaning of its own. -/
def isEscapable (c : Char) : Bool :=
  isMeta c || (c.toNat < 0x80 && !c.isAlphanum && c ≠ '<' && c ≠ '>')

/-- An item that may stand alone or in brackets. -/
inductive Primitive where
  | literal (literal : Literal)
  | dot (span : Span)
  | assertion (span : Span) (kind : Assertion)
  | property (span : Span) (negated : Bool) (query : PropertyQuery)
  | escape (span : Span) (negated : Bool) (kind : EscapeClass)

/-- The part of the pattern that an item takes up. -/
def Primitive.span : Primitive → Span
  | .literal item => item.span
  | dot span | assertion span _ | property span _ _ | escape span _ _ => span

/-- An item outside of brackets. -/
def Primitive.expression : Primitive → Expression
  | .literal item => .literal item
  | dot span => .dot span
  | assertion span kind => .assertion span kind
  | property span negated query => .property span negated query
  | escape span negated kind => .escape span negated kind

/-- An item in brackets. -/
def Primitive.classSet : Primitive → Reader ClassSet
  | .literal item => return .literal item
  | property span negated query => return .property span negated query
  | escape span negated kind => return .escape span negated kind
  | item => fail item.span .classEscapeInvalid

/-- An end of a range in brackets. -/
def Primitive.rangeEnd : Primitive → Reader Literal
  | .literal item => return item
  | item => fail item.span .classRangeLiteral

/-- The digits of a character by number, of a fixed count. -/
def hexDigits : Nat → Bool → Reader (List Char)
  | 0, _ => return []
  | count + 1, isFirst => do
    if !isFirst then
      if !(← bumpThrough) then fail (← here) .escapeUnexpectedEnd
    match ← current? with
    | some c =>
      if (CodeRanges.hexDigit? c).isSome then return c :: (← hexDigits count false)
      else fail (← currentSpan) .escapeHexInvalidDigit
    | none => fail (← here) .escapeUnexpectedEnd

/-- The digits of a character by number in braces. -/
def hexBraces : Nat → Reader (List Char)
  | 0 => return []
  | rounds + 1 => do
    if ← bumpThrough then
      match ← current? with
      | some c =>
        if c = '\x7d' then return []
        else if (CodeRanges.hexDigit? c).isSome then return c :: (← hexBraces rounds)
        else fail (← currentSpan) .escapeHexInvalidDigit
      | none => return []
    else return []

/-- A character by number; the current character says how many digits it has. -/
def hexLiteral (start : Place) : Reader Literal := do
  let count := match ← current? with
    | some 'x' => 2
    | some 'u' => 4
    | _ => 8
  if !(← bumpThrough) then fail (← here) .escapeUnexpectedEnd
  if (← current?) = some '\x7b' then
    let brace ← place
    let digitsStart := (← currentSpan).stop
    let digits ← hexBraces (← left)
    if ← atEnd then fail (← since brace) .escapeUnexpectedEnd
    let digitsEnd ← place
    let _ ← bumpThrough
    if digits.isEmpty then fail (← since brace) .escapeHexEmpty
    let value := numberOf 16 digits
    if value.isValidChar then return ⟨← since start, Char.ofNat value, false⟩
    else fail ⟨digitsStart, digitsEnd⟩ .escapeHexInvalid
  else
    let digitsStart ← place
    let digits ← hexDigits count true
    let _ ← bumpThrough
    let value := numberOf 16 digits
    if value.isValidChar then return ⟨← since start, Char.ofNat value, count = 2⟩
    else fail (← since digitsStart) .escapeHexInvalid

/-- The characters of a property up to its closing brace. -/
def propertyName : Nat → Reader (List Char)
  | 0 => return []
  | rounds + 1 => do
    if ← bumpThrough then
      match ← current? with
      | some c => if c = '\x7d' then return [] else return c :: (← propertyName rounds)
      | none => return []
    else return []

/-- What stands before and behind the first occurrence of a word. -/
def splitAtWord? (word : List Char) : List Char → Option (List Char × List Char)
  | [] => none
  | c :: rest =>
    if word.isPrefixOf (c :: rest) then some ([], (c :: rest).drop word.length)
    else (splitAtWord? word rest).map fun parts => (c :: parts.1, parts.2)

/-- The set that the text between braces asks for. -/
def propertyQuery (text : List Char) : PropertyQuery :=
  match splitAtWord? ['!', '='] text with
  | some (name, value) => .valued (String.ofList name) (String.ofList value) true
  | none =>
    match splitAtWord? [':'] text with
    | some (name, value) => .valued (String.ofList name) (String.ofList value) false
    | none =>
      match splitAtWord? ['='] text with
      | some (name, value) => .valued (String.ofList name) (String.ofList value) false
      | none => .named (String.ofList text)

/-- A set named by a property; the current character says whether its complement is meant. -/
def propertyClass (start : Place) : Reader Primitive := do
  let negated := (← current?) = some 'P'
  if !(← bumpThrough) then fail (← here) .escapeUnexpectedEnd
  if (← current?) = some '\x7b' then
    let text ← propertyName (← left)
    if ← atEnd then fail (← here) .escapeUnexpectedEnd
    let _ ← bump
    return .property (← since start) negated (propertyQuery text)
  else
    let c := (← current?).getD ' '
    if c = '\\' then fail (← currentSpan) .unicodeClassInvalid
    let _ ← bumpThrough
    return .property (← since start) negated (.named c.toString)

/-- The word in braces behind a word boundary, if there is one. A brace that begins anything else is
left for a counted repetition. -/
def boundaryKind? (start : Place) : Reader (Option Assertion) := do
  let before ← get
  let brace ← place
  if !(← bumpThrough) then fail (← since start) .wordBoundaryUnexpectedEnd
  let isLetter (c : Char) : Bool := c.isAlpha || c = '-'
  let wordStart ← place
  if !((← current?).map isLetter).getD false then
    set before
    return none
  let word ← takeWhile isLetter bumpThrough (← left)
  if (← current?) ≠ some '\x7d' then fail (← since brace) .wordBoundaryUnclosed
  let wordEnd ← place
  let _ ← bump
  match String.ofList word with
  | "start" => return some .wordStart
  | "end" => return some .wordEnd
  | "start-half" => return some .wordStartHalf
  | "end-half" => return some .wordEndHalf
  | _ => fail ⟨wordStart, wordEnd⟩ .wordBoundaryUnrecognized

/-- An item behind a backslash. -/
def escaped : Reader Primitive := do
  let start ← place
  if !(← bump) then fail (← since start) .escapeUnexpectedEnd
  let c := (← current?).getD ' '
  if c.isDigit then fail ⟨start, (← currentSpan).stop⟩ .unsupportedBackreference
  if c = 'x' || c = 'u' || c = 'U' then return .literal (← hexLiteral start)
  if c = 'p' || c = 'P' then return ← propertyClass start
  let _ ← bump
  let span ← since start
  let literal (char : Char) : Reader Primitive := return .literal ⟨span, char, false⟩
  if isEscapable c then literal c
  else
    match c with
    | 'd' => return .escape span false .digit
    | 'D' => return .escape span true .digit
    | 's' => return .escape span false .space
    | 'S' => return .escape span true .space
    | 'w' => return .escape span false .word
    | 'W' => return .escape span true .word
    | 'a' => literal '\x07'
    | 'f' => literal '\x0c'
    | 't' => literal '\t'
    | 'n' => literal '\n'
    | 'r' => literal '\r'
    | 'v' => literal '\x0b'
    | 'A' => return .assertion span .textStart
    | 'z' => return .assertion span .textEnd
    | 'B' => return .assertion span .notWordBoundary
    | '<' => return .assertion span .wordStart
    | '>' => return .assertion span .wordEnd
    | 'b' =>
      if (← current?) = some '\x7b' then
        match ← boundaryKind? start with
        | some kind => return .assertion (← since start) kind
        | none => return .assertion span .wordBoundary
      else return .assertion span .wordBoundary
    | _ => fail span .escapeUnrecognized

/-- An item outside of brackets. -/
def primitive : Reader Primitive := do
  let span ← currentSpan
  match ← current? with
  | some '\\' => escaped
  | some '.' => do
    let _ ← bump
    return .dot span
  | some '^' => do
    let _ ← bump
    return .assertion span .lineStart
  | some '$' => do
    let _ ← bump
    return .assertion span .lineEnd
  | c => do
    let _ ← bump
    return .literal ⟨span, c.getD ' ', false⟩

/-- An item in brackets, before it is known whether it begins a range. -/
def classPrimitive : Reader Primitive := do
  let span ← currentSpan
  match ← current? with
  | some '\\' => escaped
  | c => do
    let _ ← bump
    return .literal ⟨span, c.getD ' ', false⟩

/-- A bracketed set that is open, or the left side of an operation inside one. -/
inductive ClassFrame where
  | bracket (span : Span) (negated : Bool) (before : List ClassSet)
  | operation (operation : SetOperation) (left : ClassSet)

/-- The complaint about the innermost open bracket. -/
def failUnclosed {α : Type} (stack : List ClassFrame) : Reader α := do
  let opened := stack.findSome? fun
    | .bracket span _ _ => some span
    | .operation _ _ => none
  fail (opened.getD (← here)) .classUnclosed

/-- A character in brackets, or a range of them. -/
def classItem (stack : List ClassFrame) : Reader ClassSet := do
  let first ← classPrimitive
  bumpBlanks
  if ← atEnd then failUnclosed stack
  let next ← peekThrough?
  if (← current?) ≠ some '-' || next = some ']' || next = some '-' then first.classSet
  else
    if !(← bumpThrough) then failUnclosed stack
    let last ← classPrimitive
    let span : Span := ⟨first.span.start, last.span.stop⟩
    let firstLiteral ← first.rangeEnd
    let lastLiteral ← last.rangeEnd
    if lastLiteral.char < firstLiteral.char then fail span .classRangeInvalid
    return .range span firstLiteral lastLiteral

/-- A named class of ASCII characters, if one begins here. -/
def asciiClass? : Reader (Option ClassSet) := do
  let before ← get
  let start ← place
  let giveUp : Reader (Option ClassSet) := do
    set before
    return none
  if !(← bumpIf "[:") then return ← giveUp
  if ← atEnd then return ← giveUp
  let negated ← bumpIf "^"
  if ← atEnd then return ← giveUp
  let name ← takeWhile (· ≠ ':') bump (← left)
  if !(← bumpIf ":]") then return ← giveUp
  match AsciiClass.ofName? (String.ofList name) with
  | some kind => return some (.ascii (← since start) negated kind)
  | none => giveUp

/-- The hyphens that begin a bracketed set. -/
def leadingHyphens (start : Place) : Nat → Reader (List ClassSet)
  | 0 => return []
  | rounds + 1 => do
    if (← current?) = some '-' then
      let item := ClassSet.literal ⟨← currentSpan, '-', false⟩
      if !(← bumpThrough) then fail ⟨start, start⟩ .classUnclosed
      return item :: (← leadingHyphens start rounds)
    else return []

/-- The beginning of a bracketed set: the frame of it and the first items in it. -/
def openBracket (before : List ClassSet) : Reader (ClassFrame × List ClassSet) := do
  let start ← place
  if !(← bumpThrough) then fail (← since start) .classUnclosed
  let negated := (← current?) = some '^'
  if negated then
    if !(← bumpThrough) then fail (← since start) .classUnclosed
  let hyphens ← leadingHyphens start (← left)
  if hyphens.isEmpty && (← current?) = some ']' then
    let item := ClassSet.literal ⟨← currentSpan, ']', false⟩
    if !(← bumpThrough) then fail (← since start) .classUnclosed
    return (.bracket (← since start) negated before, [item])
  else return (.bracket (← since start) negated before, hyphens)

/-- Joins a set with the left side that waits for it, if one does. -/
def closeOperation (right : ClassSet) : List ClassFrame → ClassSet × List ClassFrame
  | .operation operation left :: outer =>
    (.binary ⟨left.span.start, right.span.stop⟩ operation left right, outer)
  | stack => (right, stack)

/-- The operation that begins here. -/
def operation? : Reader (Option SetOperation) := do
  if ← bumpIf "&&" then return some .intersection
  else if ← bumpIf "--" then return some .difference
  else if ← bumpIf "~~" then return some .symmetricDifference
  else return none

/-- A bracketed set, from its open frames and the items of the innermost one, last item first. -/
def bracketed (stack : List ClassFrame) (items : List ClassSet) : Nat → Reader Expression
  | 0 => failUnclosed stack
  | rounds + 1 => do
    bumpBlanks
    match ← current? with
    | none => failUnclosed stack
    | some '[' => do
      match ← (if stack.isEmpty then pure none else asciiClass?) with
      | some named => bracketed stack (named :: items) rounds
      | none => do
        let (frame, first) ← openBracket items
        bracketed (frame :: stack) first.reverse rounds
    | some ']' => do
      let (inner, outer) := closeOperation (.ofItems (← here) items.reverse) stack
      let _ ← bump
      match outer with
      | .bracket span negated before :: rest =>
        let whole : Span := ⟨span.start, ← place⟩
        if rest.isEmpty then return .bracketed whole negated inner
        else bracketed rest (.bracketed whole negated inner :: before) rounds
      | _ => failUnclosed stack
    | some _ => do
      match ← operation? with
      | some operation => do
        let (left, outer) := closeOperation (.ofItems (← here) items.reverse) stack
        bracketed (.operation operation left :: outer) [] rounds
      | none => do
        let item ← classItem stack
        bracketed stack (item :: items) rounds

/-- A flag by its letter. -/
def flagOf? : Char → Option Flag
  | 'i' => some .caseInsensitive
  | 'm' => some .multiLine
  | 's' => some .dotMatchesNewline
  | 'U' => some .swapGreed
  | 'u' => some .unicode
  | 'R' => some .crlf
  | 'x' => some .ignoreBlanks
  | _ => none

/-- The flags up to a colon or a closing parenthesis, behind those that were read with their places.
-/
def flagItems (seen : List (FlagItem × Span)) : Nat → Reader (List FlagItem)
  | 0 => return []
  | rounds + 1 => do
    let span ← currentSpan
    match ← current? with
    | some c => do
      if c = ':' || c = ')' then
        match seen with
        | (.negation, negation) :: _ => fail negation .flagDanglingNegation
        | _ => return seen.reverse.map Prod.fst
      else
        let item ← (if c = '-' then pure FlagItem.negation else
          match flagOf? c with
          | some flag => pure (FlagItem.flag flag)
          | none => fail span .flagUnrecognized)
        match seen.lookup item with
        | some earlier =>
          fail span (if c = '-' then .flagRepeatedNegation else .flagDuplicate) (some earlier)
        | none => do
          if !(← bump) then fail (← here) .flagUnexpectedEnd
          flagItems ((item, span) :: seen) rounds
    | none => fail span .flagUnexpectedEnd

/-- Whether a character may stand in the name of a group. -/
def isNameCharacter (isFirst : Bool) (c : Char) : Bool :=
  c = '_' || Unicode.letter.contains c.toNat ||
    (!isFirst && (c = '.' || c = '[' || c = ']' || Unicode.number.contains c.toNat))

/-- The name of a group up to its closing angle. -/
def groupName (isFirst : Bool) : Nat → Reader (List Char)
  | 0 => return []
  | rounds + 1 => do
    match ← current? with
    | some c => do
      if c = '>' then return []
      else if isNameCharacter isFirst c then
        let _ ← bump
        return c :: (← groupName false rounds)
      else fail (← currentSpan) .groupNameInvalid
    | none => return []

/-- Reads the name of a group and remembers it. -/
def namedGroup : Reader Unit := do
  if ← atEnd then fail (← here) .groupNameUnexpectedEnd
  let start ← place
  let name ← groupName true (← left)
  let span ← since start
  if ← atEnd then fail (← here) .groupNameUnexpectedEnd
  let _ ← bump
  if name.isEmpty then fail ⟨start, start⟩ .groupNameEmpty
  let state ← get
  match state.names.lookup (String.ofList name) with
  | some earlier => fail span .groupNameDuplicate (some earlier)
  | none => set { state with names := (String.ofList name, span) :: state.names }

/-- What an opening parenthesis begins: flags for what follows, or a group. -/
inductive GroupStart where
  | flags (span : Span) (items : List FlagItem)
  | group (span : Span) (kind : GroupKind)

/-- The flags that are set for the inside of a group. -/
def groupFlags : GroupKind → List FlagItem
  | .capturing => []
  | .scoped flags => flags

/-- Reads the beginning of a group. -/
def groupStart : Reader GroupStart := do
  let span ← currentSpan
  let _ ← bump
  bumpBlanks
  if ← bumpAny ["?=", "?!", "?<=", "?<!"] then
    fail ⟨span.start, ← place⟩ .unsupportedLookAround
  let inner ← here
  if ← bumpAny ["?P<", "?<"] then
    namedGroup
    return .group span .capturing
  else if ← bumpIf "?" then
    if ← atEnd then fail span .groupUnclosed
    let items ← flagItems [] (← left)
    let last ← current?
    let _ ← bump
    if last = some ')' then
      if items.isEmpty then fail inner .repetitionMissing
      return .flags ⟨span.start, ← place⟩ items
    else return .group span (.scoped items)
  else return .group span .capturing

/-- What waits while something inside it is read. -/
inductive GroupFrame where
  | group (span : Span) (kind : GroupKind) (ignoreBlanks : Bool) (start : Place)
    (before : List Expression)
  | alternation (start : Place) (branches : List Expression)

/-- The last item of a sequence, for a repetition; flags cannot be repeated. -/
def repeatable : List Expression → Reader (Expression × List Expression)
  | [] => do fail (← here) .repetitionMissing
  | .empty _ :: _ => do fail (← here) .repetitionMissing
  | .flags _ _ :: _ => do fail (← here) .repetitionMissing
  | item :: before => return (item, before)

/-- Takes the mark of a reluctant repetition; says whether there is none. -/
def bumpReluctant : Reader Bool := do
  if (← current?) = some '?' then
    let _ ← bump
    return false
  else return true

/-- A repetition by `?`, `*` or `+`. -/
def plainRepetition (least : Nat) (most : Option Nat) (items : List Expression) :
    Reader (List Expression) := do
  let (item, before) ← repeatable items
  let greedy ← (do if ← bump then bumpReluctant else pure true)
  return .repetition ⟨item.span.start, ← place⟩ item least most greedy :: before

/-- The count of a repetition, if it could be read. -/
def counted : Except (Span × Fault) Nat → Reader Nat
  | .ok n => return n
  | .error (span, fault) => fail span fault

/-- A repetition by a count in braces. -/
def countedRepetition (items : List Expression) : Reader (List Expression) := do
  let start ← place
  let (item, before) ← repeatable items
  if !(← bumpThrough) then fail (← since start) .repetitionCountUnclosed
  let first ← decimal
  if ← atEnd then fail (← since start) .repetitionCountUnclosed
  let (least, most) ← (do
    if (← current?) = some ',' then
      if !(← bumpThrough) then fail (← since start) .repetitionCountUnclosed
      if (← current?) ≠ some '\x7d' then
        let least ← counted first
        let most ← counted (← decimal)
        pure (least, some most)
      else
        let least ← counted first
        pure (least, none)
    else
      let least ← counted first
      pure (least, some least))
  if (← current?) ≠ some '\x7d' then fail (← since start) .repetitionCountUnclosed
  let greedy ← (do if ← bumpThrough then bumpReluctant else pure true)
  let span ← since start
  if (most.map fun count => decide (count < least)).getD false then
    fail span .repetitionCountInvalid
  return .repetition ⟨item.span.start, span.stop⟩ item least most greedy :: before

/-- The end of a sequence: the branches of the alternation that waits for it, or the sequence. -/
def closeBranches (start stop : Place) (items : List Expression) (stack : List GroupFrame) :
    Expression × List GroupFrame :=
  let branch := Expression.ofItems ⟨start, stop⟩ items.reverse
  match stack with
  | .alternation first branches :: outer =>
    (.alternation ⟨first, stop⟩ (branches ++ [branch]), outer)
  | _ => (branch, stack)

/-- Reads a pattern from its open groups and the items of the innermost one, last item first. -/
def pattern (stack : List GroupFrame) (start : Place) (items : List Expression) :
    Nat → Reader Expression
  | 0 => do fail (← here) .groupUnclosed
  | rounds + 1 => do
    bumpBlanks
    match ← current? with
    | none => do
      let (whole, outer) := closeBranches start (← place) items stack
      match outer with
      | .group span _ _ _ _ :: _ => fail span .groupUnclosed
      | _ => return whole
    | some '(' => do
      match ← groupStart with
      | .flags span flags => do
        match flagState? .ignoreBlanks flags with
        | some state => modify fun reader => { reader with ignoreBlanks := state }
        | none => pure ()
        pattern stack start (.flags span flags :: items) rounds
      | .group span kind => do
        let outside := (← get).ignoreBlanks
        let inside := (flagState? .ignoreBlanks (groupFlags kind)).getD outside
        modify fun reader => { reader with ignoreBlanks := inside }
        pattern (.group span kind outside start items :: stack) (← place) [] rounds
    | some ')' => do
      let (inner, outer) := closeBranches start (← place) items stack
      match outer with
      | .group span kind outside outerStart before :: rest => do
        modify fun reader => { reader with ignoreBlanks := outside }
        let _ ← bump
        let whole : Span := ⟨span.start, ← place⟩
        pattern rest outerStart (.group whole kind inner :: before) rounds
      | _ => fail (← currentSpan) .groupUnopened
    | some '|' => do
      let branch := Expression.ofItems ⟨start, ← place⟩ items.reverse
      let _ ← bump
      let next ← place
      match stack with
      | .alternation first branches :: outer =>
        pattern (.alternation first (branches ++ [branch]) :: outer) next [] rounds
      | _ => pattern (.alternation start [branch] :: stack) next [] rounds
    | some '[' => do
      let set ← bracketed [] [] ((← left) + 1)
      pattern stack start (set :: items) rounds
    | some '?' => do pattern stack start (← plainRepetition 0 (some 1) items) rounds
    | some '*' => do pattern stack start (← plainRepetition 0 none items) rounds
    | some '+' => do pattern stack start (← plainRepetition 1 none items) rounds
    | some '\x7b' => do pattern stack start (← countedRepetition items) rounds
    | some _ => do pattern stack start ((← primitive).expression :: items) rounds

end Reader

/-- How deep groups and brackets may be nested. -/
def nestLimit : Nat := 250

/-- Reads a pattern. -/
def Expression.read (text : String) : Except Complaint Expression := do
  let start : Place := ⟨1, 1⟩
  let (expression, _) ←
    (Reader.pattern [] start [] (text.length + 1)).run ⟨text.toList, start, false, []⟩
  match expression.tooDeep? 0 nestLimit with
  | some span => throw ⟨span, none, .nestLimitExceeded nestLimit⟩
  | none => return expression

end BehaviorDiff.Pattern
