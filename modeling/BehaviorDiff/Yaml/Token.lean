import BehaviorDiff.Yaml.Scalar

set_option autoImplicit false

/-!
The tokens of a text, and those that are read without regard to what surrounds them: anchors,
aliases, tags and directives.
-/

namespace BehaviorDiff.Yaml

/-- What a token stands for. -/
inductive TokenKind where
  | streamEnd
  | version (major minor : Nat)
  | tagDirective (handle : String) (lead : Octets)
  | documentStart
  | documentEnd
  | blockSequenceStart
  | blockMappingStart
  | blockEnd
  | flowSequenceStart
  | flowSequenceEnd
  | flowMappingStart
  | flowMappingEnd
  | blockEntry
  | flowEntry
  | key
  | value
  | alias (name : String)
  | anchor (name : String)
  | tag (handle : String) (suffix : Octets)
  | scalar (style : ScalarStyle) (text : String)
  deriving DecidableEq, Repr

/-- A token and the part of the text that it takes up. -/
structure Token where
  kind : TokenKind
  start : Place
  stop : Place
  deriving DecidableEq, Repr

/-- Reads an anchor or an alias: a mark and a name. -/
def readName (activity : Activity) (cursor : Cursor) : Except Fault (String × Cursor) :=
  let name := cursor.skip.word isNameCharacter
  let behind := cursor.skip.skipWhile isNameCharacter
  let isEnded := endsWord behind.rest ||
    (behind.rest.head?.map "?:,]\x7d%@\x60".toList.contains).getD false
  if name.isEmpty || !isEnded then behind.fault .noName activity cursor.place
  else .ok (String.ofList name, behind)

/-- What is read of a tag: a tag of a node, or one of a directive. -/
structure TagContext where
  isDirective : Bool
  start : Place

/-- How many octets encode a character, by the first of them. -/
def octetCount (octet : UInt8) : Nat :=
  if octet < 0x80 then 1
  else if octet < 0xC0 then 0
  else if octet < 0xE0 then 2
  else if octet < 0xF0 then 3
  else if octet < 0xF8 then 4
  else 0

/-- An octet that is written as a percent sign and two digits. -/
def readOctet (context : TagContext) (cursor : Cursor) : Except Fault (UInt8 × Cursor) :=
  let activity : Activity := if context.isDirective then .tagDirectiveEscape else .tagSuffix
  match cursor.rest with
  | '%' :: a :: b :: _ =>
    match CodeRanges.hexDigit? a, CodeRanges.hexDigit? b with
    | some high, some low => .ok ((high * 16 + low).toUInt8, cursor.skip 3)
    | _, _ => cursor.fault .noEscapedOctet activity context.start
  | _ => cursor.fault .noEscapedOctet activity context.start

/-- The octets behind the first one of a character. -/
def readTrailingOctets (context : TagContext) (cursor : Cursor) :
    Nat → Except Fault (Octets × Cursor)
  | 0 => .ok ([], cursor)
  | missing + 1 => do
    let activity : Activity := if context.isDirective then .tagDirectiveEscape else .tagSuffix
    let (octet, behind) ← readOctet context cursor
    if octet < 0x80 || 0xC0 ≤ octet then cursor.fault .wrongTrailingOctet activity context.start
    else
      let (others, behind) ← readTrailingOctets context behind missing
      return (octet :: others, behind)

/-- The octets of a character of a tag. -/
def readEscapedCharacter (context : TagContext) (cursor : Cursor) :
    Except Fault (Octets × Cursor) := do
  let activity : Activity := if context.isDirective then .tagDirectiveEscape else .tagSuffix
  let (octet, behind) ← readOctet context cursor
  match octetCount octet with
  | 0 => cursor.fault .wrongLeadingOctet activity context.start
  | missing + 1 =>
    let (others, behind) ← readTrailingOctets context behind missing
    return (octet :: others, behind)

/-- The octets of a tag. Every round takes at least one of them. -/
def readTagOctets (verbatim : Bool) (context : TagContext) (cursor : Cursor) :
    Nat → Except Fault (Octets × Cursor)
  | 0 => .ok ([], cursor)
  | rounds + 1 =>
    match cursor.rest with
    | [] => .ok ([], cursor)
    | c :: _ => do
      if c = '%' then
        let (escaped, behind) ← readEscapedCharacter context cursor
        let (others, behind) ← readTagOctets verbatim context behind rounds
        return (escaped ++ others, behind)
      else if isTagCharacter verbatim c then
        let (others, behind) ← readTagOctets verbatim context cursor.skip rounds
        return (octets [c] ++ others, behind)
      else return ([], cursor)

/-- The octets of a tag behind what has been read of it already. A zero octet ends a tag, whatever
is written behind it. -/
def readTagText (verbatim : Bool) (context : TagContext) (head : List Char) (cursor : Cursor) :
    Except Fault (Octets × Cursor) := do
  let activity : Activity := if context.isDirective then .tagDirectiveEscape else .tagSuffix
  let (written, behind) ← readTagOctets verbatim context cursor cursor.rest.length
  if head.isEmpty && written.isEmpty then behind.fault .noTagText activity context.start
  else return ((octets (head.drop 1) ++ written).takeWhile (· ≠ 0), behind)

/-- The handle of a tag: an exclamation mark, a name, and maybe another exclamation mark. -/
def readTagHandle (context : TagContext) (cursor : Cursor) : Except Fault (List Char × Cursor) :=
  let activity : Activity := if context.isDirective then .tagHandle else .tag
  if cursor.rest.head? ≠ some '!' then cursor.fault .noExclamationMark activity context.start
  else
    let name := cursor.skip.word isNameCharacter
    let behind := cursor.skip.skipWhile isNameCharacter
    if behind.rest.head? = some '!' then .ok ('!' :: name ++ ['!'], behind.skip)
    else if context.isDirective && !name.isEmpty then
      behind.fault .noExclamationMark .tagDirectiveHandle context.start
    else .ok ('!' :: name, behind)

/-- Reads the tag of a node: its handle and its suffix. -/
def readTag (inFlow : Bool) (cursor : Cursor) : Except Fault (TokenKind × Cursor) := do
  let context : TagContext := ⟨false, cursor.place⟩
  let (handle, suffix, behind) ← (do
    if (cursor.rest.drop 1).head? = some '<' then
      let (suffix, behind) ← readTagText true context [] (cursor.skip 2)
      if behind.rest.head? ≠ some '>' then
        behind.fault .noClosingAngle .tag context.start
      else pure ([], suffix, behind.skip)
    else
      let (handle, behind) ← readTagHandle context cursor
      if handle.length > 1 && handle.getLast? = some '!' then
        let (suffix, behind) ← readTagText false context [] behind
        pure (handle, suffix, behind)
      else
        let (suffix, behind) ← readTagText false context handle behind
        if suffix.isEmpty then pure ([], octets ['!'], behind) else pure (['!'], suffix, behind))
  if (inFlow && behind.rest.head? = some ',') || endsWord behind.rest then
    return (.tag (String.ofList handle) suffix, behind)
  else behind.fault .noBlankOrBreak .tag context.start

/-- The longest row of digits in a version. -/
def versionDigits : Nat := 9

/-- A part of a version. -/
def readVersionNumber (start : Place) (cursor : Cursor) : Except Fault (Nat × Cursor) :=
  let digits := cursor.word Char.isDigit
  if digits.isEmpty then cursor.fault .noVersion .versionDirective start
  else if digits.length > versionDigits then
    (cursor.skip versionDigits).fault .longVersion .versionDirective start
  else
    let number := digits.foldl (fun n c => n * 10 + (c.toNat - '0'.toNat)) 0
    .ok (number, cursor.skipWhile Char.isDigit)

/-- The version that a directive gives. -/
def readVersion (start : Place) (cursor : Cursor) : Except Fault (TokenKind × Cursor) := do
  let (major, behind) ← readVersionNumber start (cursor.skipWhile isBlank)
  if behind.rest.head? ≠ some '.' then behind.fault .noVersionDot .versionDirective start
  else
    let (minor, behind) ← readVersionNumber start behind.skip
    return (.version major minor, behind)

/-- The handle that a directive gives, and what it stands for. -/
def readTagDirective (start : Place) (cursor : Cursor) : Except Fault (TokenKind × Cursor) := do
  let context : TagContext := ⟨true, start⟩
  let (handle, behind) ← readTagHandle context (cursor.skipWhile isBlank)
  if !(behind.rest.head?.map isBlank).getD false then
    behind.fault .noBlank .tagDirective start
  else
    let (lead, behind) ← readTagText true context [] (behind.skipWhile isBlank)
    if endsWord behind.rest then
      return (.tagDirective (String.ofList handle) lead, behind)
    else behind.fault .noBlankOrBreak .tagDirective start

/-- Reads a directive with the rest of its line. -/
def readDirective (cursor : Cursor) : Except Fault (Token × Cursor) := do
  let start := cursor.place
  let name := cursor.skip.word isNameCharacter
  let behind := cursor.skip.skipWhile isNameCharacter
  if name.isEmpty then behind.fault .noDirectiveName .directive start
  else if !endsWord behind.rest then behind.fault .notAlphabetic .directive start
  else
    let (kind, behind) ← (match String.ofList name with
      | "YAML" => readVersion start behind
      | "TAG" => readTagDirective start behind
      | _ => behind.fault .unknownDirective .directive start)
    let lineEnd := behind.skipComment
    if endsLine lineEnd.rest then return (⟨kind, start, behind.place⟩, lineEnd.skipBreak)
    else lineEnd.fault .noCommentOrBreak .directive start

end BehaviorDiff.Yaml
