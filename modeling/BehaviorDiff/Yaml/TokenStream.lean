import BehaviorDiff.Yaml.Token

set_option autoImplicit false

/-!
The tokens of a text in order. Indentation opens and closes block collections. What may turn out to
be a key is known only at the colon behind it, so the tokens of a key are put in front of it then;
until then the tokens from it on are held back. A key ends in its line and takes up at most 1024
bytes.
-/

namespace BehaviorDiff.Yaml

/-- What may turn out to be a key: the number of its first token, and whether it has to be one. -/
structure SimpleKey where
  required : Bool
  number : Nat
  place : Place
  deriving DecidableEq, Repr

/-- The bytes of the longest key. -/
def keyLimit : Nat := 1024

/-- How far the text has been read: the open indentations, innermost first, and for each collection
in brackets the key that may stand in it. -/
structure Scanner where
  cursor : Cursor
  tokens : List Token
  indents : List Nat
  key? : Option SimpleKey
  outerKeys : List (Option SimpleKey)
  keyAllowed : Bool

namespace Scanner

/-- The beginning of a text. -/
def start (text : List Char) : Scanner := ⟨⟨.start, text⟩, [], [], none, [], true⟩

/-- Whether the current place is in brackets or braces. -/
def inFlow (scanner : Scanner) : Bool := !scanner.outerKeys.isEmpty

/-- The current place. -/
def place (scanner : Scanner) : Place := scanner.cursor.place

/-- Adds a token. -/
def push (scanner : Scanner) (kind : TokenKind) (start stop : Place) : Scanner :=
  { scanner with tokens := scanner.tokens ++ [⟨kind, start, stop⟩] }

/-- Adds a token that takes up some characters at the current place. -/
def pushHere (scanner : Scanner) (kind : TokenKind) (count : Nat) : Scanner :=
  let behind := scanner.cursor.skip count
  { scanner.push kind scanner.place behind.place with cursor := behind }

/-- Puts a token in front of the one with a number. -/
def insert (scanner : Scanner) (number : Nat) (kind : TokenKind) (place : Place) : Scanner :=
  let (before, behind) := scanner.tokens.splitAt number
  { scanner with tokens := before ++ ⟨kind, place, place⟩ :: behind }

/-- A fault at the current place. -/
def fail {α : Type} (scanner : Scanner) (problem : Problem) : Except Fault α :=
  .error (.malformed problem scanner.place none)

/-- The fault that what has to be a key has no colon behind it. -/
def failKey {α : Type} (scanner : Scanner) (key : SimpleKey) : Except Fault α :=
  scanner.cursor.fault .noColon .simpleKey key.place

/-- Whether a key would be too long, or goes on in another line. -/
def isStale (scanner : Scanner) (key : SimpleKey) : Bool :=
  key.place.line < scanner.place.line || key.place.index + keyLimit < scanner.place.index

/-- The key that is still possible at the current place. -/
def fresh (scanner : Scanner) : Option SimpleKey → Except Fault (Option SimpleKey)
  | none => .ok none
  | some key =>
    if !scanner.isStale key then .ok (some key)
    else if key.required then scanner.failKey key
    else .ok none

/-- Gives up the keys that are no longer possible, those of outer collections first. -/
def dropStale (scanner : Scanner) : Except Fault Scanner := do
  let outerKeys ← scanner.outerKeys.reverse.mapM scanner.fresh
  let key? ← scanner.fresh scanner.key?
  return { scanner with key?, outerKeys := outerKeys.reverse }

/-- Gives up the key of the current collection. -/
def dropKey (scanner : Scanner) : Except Fault Scanner :=
  match scanner.key? with
  | some key => if key.required then scanner.failKey key else .ok { scanner with key? := none }
  | none => .ok scanner

/-- Notes that a key may begin here. It has to be one where a block collection would have to go on.
-/
def noteKey (scanner : Scanner) : Except Fault Scanner := do
  if scanner.keyAllowed then
    let required := !scanner.inFlow && scanner.indents.head? = some scanner.place.column
    let dropped ← scanner.dropKey
    return { dropped with key? := some ⟨required, scanner.tokens.length, scanner.place⟩ }
  else return scanner

/-- Whether a column lies behind the innermost indentation. -/
def isDeeper (scanner : Scanner) (column : Nat) : Bool :=
  !scanner.inFlow && (scanner.indents.head?.map fun indent => decide (indent < column)).getD true

/-- Opens a block collection if the current place is indented deeper than the ones around it. -/
def openBlock (scanner : Scanner) (kind : TokenKind) : Scanner :=
  if scanner.isDeeper scanner.place.column then
    { scanner.push kind scanner.place scanner.place with
      indents := scanner.place.column :: scanner.indents }
  else scanner

/-- Closes block collections. -/
def closeAll (scanner : Scanner) (closed : List Nat) (left : List Nat) : Scanner :=
  let ends := closed.map fun _ => Token.mk .blockEnd scanner.place scanner.place
  { scanner with tokens := scanner.tokens ++ ends, indents := left }

/-- Closes the block collections that are indented deeper than a column, or all of them. -/
def closeBlocks (scanner : Scanner) (column? : Option Nat) : Scanner :=
  if scanner.inFlow then scanner
  else
    let isClosed (indent : Nat) : Bool :=
      (column?.map fun column => decide (column < indent)).getD true
    scanner.closeAll (scanner.indents.takeWhile isClosed) (scanner.indents.dropWhile isClosed)

/-- Goes on over blanks, comments and line ends. In a block a line may begin with a key. -/
def skipToToken (inFlow keyAllowed inComment : Bool) (place : Place) : List Char → Cursor × Bool
  | [] => (⟨place, []⟩, keyAllowed)
  | c :: rest =>
    if isHalfBreak c rest then skipToToken inFlow keyAllowed inComment place.halfway rest
    else if isBreak c then skipToToken inFlow (keyAllowed || !inFlow) false (place.nextLine c) rest
    else if inComment || c = ' ' || (c = '\t' && (inFlow || !keyAllowed)) ||
        (c = byteOrderMark && place.column = 0) then
      skipToToken inFlow keyAllowed inComment (place.next c) rest
    else if c = '#' then skipToToken inFlow keyAllowed true (place.next c) rest
    else (⟨place, c :: rest⟩, keyAllowed)

/-- Goes on to the next token. -/
def toToken (scanner : Scanner) : Scanner :=
  let (cursor, keyAllowed) :=
    skipToToken scanner.inFlow scanner.keyAllowed false scanner.place scanner.cursor.rest
  { scanner with cursor, keyAllowed }

/-- The end of the text, which is the beginning of a line. -/
def readEnd (scanner : Scanner) : Except Fault Scanner := do
  let place := scanner.place
  let atEnd :=
    if place.column = 0 then place else { place with line := place.line + 1, column := 0 }
  let scanner := Scanner.closeBlocks { scanner with cursor := ⟨atEnd, []⟩ } none
  let scanner ← scanner.dropKey
  return { scanner.push .streamEnd atEnd atEnd with keyAllowed := false }

/-- A token that may stand between the blocks of documents only. -/
def readBetween (scanner : Scanner) (token : Scanner → Except Fault Scanner) :
    Except Fault Scanner := do
  let scanner ← (scanner.closeBlocks none).dropKey
  token { scanner with keyAllowed := false }

/-- A directive. -/
def readDirective (scanner : Scanner) : Except Fault Scanner := do
  let (token, behind) ← Yaml.readDirective scanner.cursor
  return { scanner.push token.kind token.start token.stop with cursor := behind }

/-- An opening bracket or brace. -/
def readFlowStart (scanner : Scanner) (kind : TokenKind) : Except Fault Scanner := do
  let scanner ← scanner.noteKey
  return Scanner.pushHere
    { scanner with
      key? := none, outerKeys := scanner.key? :: scanner.outerKeys, keyAllowed := true }
    kind 1

/-- A closing bracket or brace. -/
def readFlowEnd (scanner : Scanner) (kind : TokenKind) : Except Fault Scanner := do
  let scanner ← scanner.dropKey
  let outer := match scanner.outerKeys with
    | [] => scanner
    | key? :: others => { scanner with key?, outerKeys := others }
  return Scanner.pushHere { outer with keyAllowed := false } kind 1

/-- A comma. -/
def readFlowEntry (scanner : Scanner) : Except Fault Scanner := do
  let scanner ← scanner.dropKey
  return Scanner.pushHere { scanner with keyAllowed := true } .flowEntry 1

/-- A hyphen in front of an entry. -/
def readBlockEntry (scanner : Scanner) : Except Fault Scanner := do
  if !scanner.inFlow && !scanner.keyAllowed then scanner.fail .entryNotAllowed
  else
    let scanner ← (scanner.openBlock .blockSequenceStart).dropKey
    return Scanner.pushHere { scanner with keyAllowed := true } .blockEntry 1

/-- A question mark in front of a key. -/
def readKey (scanner : Scanner) : Except Fault Scanner := do
  if !scanner.inFlow && !scanner.keyAllowed then scanner.fail .keyNotAllowed
  else
    let scanner ← (scanner.openBlock .blockMappingStart).dropKey
    return Scanner.pushHere { scanner with keyAllowed := !scanner.inFlow } .key 1

/-- Puts the token of a key in front of it, and opens a mapping if it begins one. -/
def insertKey (scanner : Scanner) (key : SimpleKey) : Scanner :=
  let keyed := scanner.insert key.number .key key.place
  let opened :=
    if scanner.isDeeper key.place.column then
      { keyed.insert key.number .blockMappingStart key.place with
        indents := key.place.column :: scanner.indents }
    else keyed
  { opened with key? := none, keyAllowed := false }

/-- A colon. -/
def readValue (scanner : Scanner) : Except Fault Scanner := do
  match scanner.key? with
  | some key => return (scanner.insertKey key).pushHere .value 1
  | none =>
    if !scanner.inFlow && !scanner.keyAllowed then scanner.fail .valueNotAllowed
    else
      let opened := scanner.openBlock .blockMappingStart
      return Scanner.pushHere { opened with keyAllowed := !scanner.inFlow } .value 1

/-- A token that may begin a key. -/
def readKeyPart (scanner : Scanner) (read : Cursor → Except Fault (TokenKind × Cursor)) :
    Except Fault Scanner := do
  let scanner ← scanner.noteKey
  let (kind, behind) ← read scanner.cursor
  return { scanner.push kind scanner.place behind.place with cursor := behind, keyAllowed := false }

/-- A scalar with a mark in front of its lines. -/
def readBlockScalar (scanner : Scanner) (folded : Bool) : Except Fault Scanner := do
  let scanner ← scanner.dropKey
  let scalar ← Yaml.readBlockScalar folded scanner.indents.head? scanner.cursor
  let kind := TokenKind.scalar (if folded then .folded else .literal) (String.ofList scalar.text)
  return { scanner.push kind scanner.place scalar.behind.place with
    cursor := scalar.behind, keyAllowed := true }

/-- A scalar in quotes. -/
def readQuotedScalar (scanner : Scanner) (single : Bool) : Except Fault Scanner :=
  scanner.readKeyPart fun cursor => do
    let scalar ← readQuoted single cursor.place (.text .none) cursor.skip.place (cursor.rest.drop 1)
    let style : ScalarStyle := if single then .singleQuoted else .doubleQuoted
    return (.scalar style (String.ofList scalar.text), scalar.behind)

/-- A scalar without marks. -/
def readPlainScalar (scanner : Scanner) : Except Fault Scanner := do
  let scanner ← scanner.noteKey
  let indent := (scanner.indents.head?.map (· + 1)).getD 0
  let scalar ←
    readPlain scanner.inFlow indent scanner.place .none scanner.place scanner.cursor.rest
  let kind := TokenKind.scalar .plain (String.ofList scalar.text)
  return { scanner.push kind scanner.place scalar.behind.place with
    cursor := scalar.behind, keyAllowed := scalar.brokenLine }

/-- Whether a plain scalar may begin with a character. -/
def beginsPlain (inFlow : Bool) (c : Char) (rest : List Char) : Bool :=
  !(isBlank c || isBreak c || isIndicator c) ||
    (c = '-' && !(rest.head?.map isBlank).getD false) ||
    (!inFlow && (c = '?' || c = ':') && !endsWord rest)

/-- Reads the token at the current place. -/
def readToken (scanner : Scanner) : Except Fault Scanner :=
  match scanner.cursor.rest with
  | [] => scanner.readEnd
  | c :: rest =>
    let isFirst := scanner.place.column = 0
    let isMark := scanner.inFlow || endsWord rest
    if isFirst && c = '%' then scanner.readBetween readDirective
    else if isFirst && isBound '-' (c :: rest) then
      scanner.readBetween fun between => .ok (between.pushHere .documentStart 3)
    else if isFirst && isBound '.' (c :: rest) then
      scanner.readBetween fun between => .ok (between.pushHere .documentEnd 3)
    else if c = '[' then scanner.readFlowStart .flowSequenceStart
    else if c = '\x7b' then scanner.readFlowStart .flowMappingStart
    else if c = ']' then scanner.readFlowEnd .flowSequenceEnd
    else if c = '\x7d' then scanner.readFlowEnd .flowMappingEnd
    else if c = ',' then scanner.readFlowEntry
    else if c = '-' && endsWord rest then scanner.readBlockEntry
    else if c = '?' && isMark then scanner.readKey
    else if c = ':' && isMark then scanner.readValue
    else if c = '*' then scanner.readKeyPart fun cursor =>
      (readName .alias cursor).map fun (name, behind) => (.alias name, behind)
    else if c = '&' then scanner.readKeyPart fun cursor =>
      (readName .anchor cursor).map fun (name, behind) => (.anchor name, behind)
    else if c = '!' then scanner.readKeyPart (readTag scanner.inFlow)
    else if c = '|' && !scanner.inFlow then scanner.readBlockScalar false
    else if c = '>' && !scanner.inFlow then scanner.readBlockScalar true
    else if c = '\'' then scanner.readQuotedScalar true
    else if c = '"' then scanner.readQuotedScalar false
    else if beginsPlain scanner.inFlow c rest then scanner.readPlainScalar
    else scanner.cursor.fault .noToken .nextToken scanner.place

/-- Goes on to the next token and reads it, with the block ends in front of it. -/
def advance (scanner : Scanner) : Except Fault Scanner := do
  let scanner ← scanner.toToken.dropStale
  let scanner ← (scanner.closeBlocks (some scanner.place.column)).readToken
  scanner.dropStale

/-- Whether the last token has been read. -/
def isDone (scanner : Scanner) : Bool :=
  (scanner.tokens.getLast?.map (·.kind)) = some .streamEnd

/-- The tokens that cannot turn out to be part of a key. -/
def settled (scanner : Scanner) : List Token :=
  let numbers := (scanner.key? :: scanner.outerKeys).filterMap (·.map SimpleKey.number)
  scanner.tokens.take (numbers.foldl min scanner.tokens.length)

end Scanner

/-- The tokens of a text up to its end, or up to a fault. -/
structure TokenStream where
  tokens : List Token
  fault? : Option Fault
  deriving Repr

namespace TokenStream

/-- Reads on from a place. Every round but the last takes at least one character. -/
def ofScanner (scanner : Scanner) : Nat → TokenStream
  | 0 => ⟨scanner.settled, none⟩
  | rounds + 1 =>
    if scanner.isDone then ⟨scanner.tokens, none⟩
    else
      match scanner.advance with
      | .ok next => ofScanner next rounds
      | .error fault => ⟨scanner.settled, some fault⟩

/-- The place of the first character that may not stand in a text, in bytes. -/
def forbiddenOffset? (offset : Nat) : List Char → Option Nat
  | [] => none
  | c :: rest => if isAllowed c then forbiddenOffset? (offset + c.utf8Size) rest else some offset

/-- The tokens of a text. A mark in front of the text is no part of it. -/
def ofText (text : String) : TokenStream :=
  match forbiddenOffset? 0 text.toList with
  | some offset => ⟨[], some (.forbiddenCharacter offset)⟩
  | none =>
    let chars := match text.toList with
      | c :: rest => if c = byteOrderMark then rest else c :: rest
      | [] => []
    ofScanner (.start chars) (chars.length + 2)

end TokenStream

end BehaviorDiff.Yaml
