import BehaviorDiff.Yaml.TokenStream

set_option autoImplicit false

/-!
The events of a text: what its tokens say about documents, collections and scalars. What is still
expected waits on a stack; the uppermost expectation and the next token decide what happens.
-/

namespace BehaviorDiff.Yaml

/-- What may stand in front of a node: a name for it, and a tag. -/
structure NodeProperties where
  anchor? : Option String
  tag? : Option Octets
  deriving DecidableEq, Repr

/-- Something that happens in a text. -/
inductive Event where
  | streamEnd
  | documentStart
  | documentEnd
  | alias (name : String)
  | scalar (properties : NodeProperties) (style : ScalarStyle) (text : String)
  | sequenceStart (properties : NodeProperties)
  | sequenceEnd
  | mappingStart (properties : NodeProperties)
  | mappingEnd
  deriving DecidableEq, Repr

/-- What is expected next. -/
inductive Expectation where
  | firstDocument
  | document
  | documentContent
  | documentEnd
  | node (inBlock indentless : Bool)
  | blockSequence (opened : Place)
  | indentlessSequence
  | blockMappingKey (opened : Place)
  | blockMappingValue
  | flowSequence (opened : Place) (isFirst : Bool)
  | flowPairKey
  | flowPairValue
  | flowPairEnd
  | flowMappingKey (opened : Place) (isFirst : Bool)
  | flowMappingValue
  | flowMappingNoValue
  deriving DecidableEq, Repr

/-- How far the tokens have been read. `tokensFault?` is the fault behind the last of them, and
`handles` are what the handles of tags stand for. -/
structure Parser where
  expectations : List Expectation
  tokens : List Token
  tokensFault? : Option Fault
  handles : List (String × Octets)

/-- What a step of the parser leads to: an event or none, and the parser behind it. -/
abbrev Step := Option (Event × Place) × Parser

namespace Parser

/-- The next token. -/
def peek (parser : Parser) : Except Fault Token :=
  match parser.tokens, parser.tokensFault? with
  | token :: _, _ => .ok token
  | [], some fault => .error fault
  | [], none => .ok ⟨.streamEnd, .start, .start⟩

/-- The parser behind the next token. -/
def skip (parser : Parser) : Parser := { parser with tokens := parser.tokens.drop 1 }

/-- Puts expectations on the stack. -/
def expect (parser : Parser) (expectations : List Expectation) : Parser :=
  { parser with expectations := expectations ++ parser.expectations }

/-- An event. -/
def emit (parser : Parser) (event : Event) (place : Place) : Except Fault Step :=
  .ok (some (event, place), parser)

/-- A node that is left out. -/
def emitEmpty (parser : Parser) (place : Place) : Except Fault Step :=
  parser.emit (.scalar ⟨none, none⟩ .plain "") place

/-- Goes on without an event. -/
def proceed (parser : Parser) (expectations : List Expectation) : Except Fault Step :=
  .ok (none, parser.expect expectations)

/-- A fault at a token. -/
def fail {α : Type} (token : Token) (problem : Problem) (during? : Option (Activity × Place)) :
    Except Fault α :=
  .error (.malformed problem token.start during?)

/-- The handles that stand for something in every document. -/
def defaultHandles : List (String × Octets) :=
  [("!", octets "!".toList), ("!!", octets "tag:yaml.org,2002:".toList)]

/-- Reads directives. Every round takes one of them. -/
def directives (parser : Parser) (hasVersion : Bool) (handles : List (String × Octets)) :
    Nat → Except Fault Parser
  | 0 => .ok parser
  | rounds + 1 => do
    let token ← parser.peek
    match token.kind with
    | .version major minor =>
      if hasVersion then fail token .duplicateVersion none
      else if major = 1 && (minor = 1 || minor = 2) then
        directives parser.skip true handles rounds
      else fail token .otherVersion none
    | .tagDirective handle lead =>
      if (handles.lookup handle).isSome then fail token .duplicateHandle none
      else directives parser.skip hasVersion (handles ++ [(handle, lead)]) rounds
    | _ =>
      let added := defaultHandles.filter fun entry => (handles.lookup entry.1).isNone
      return { parser with handles := handles ++ added }

/-- Skips the ends of documents that no document stands before. -/
def skipEnds (parser : Parser) : Parser :=
  { parser with tokens := parser.tokens.dropWhile (·.kind = .documentEnd) }

/-- The beginning of a document, or the end of the text. Only the first document needs no mark. -/
def documentStart (parser : Parser) (isFirst : Bool) : Except Fault Step := do
  let parser := if isFirst then parser else parser.skipEnds
  let token ← parser.peek
  let isMarked := match token.kind with
    | .version _ _ | .tagDirective _ _ | .documentStart => true
    | _ => false
  if token.kind = .streamEnd then
    Parser.emit { parser with expectations := [] } .streamEnd token.start
  else if isFirst && !isMarked then
    let parser ← parser.directives false [] 1
    (parser.expect [.node true false, .documentEnd]).emit .documentStart token.start
  else
    let parser ← parser.directives false [] (parser.tokens.length + 1)
    let mark ← parser.peek
    if mark.kind = .documentStart then
      (parser.skip.expect [.documentContent, .documentEnd]).emit .documentStart token.start
    else fail mark .noDocumentStart none

/-- What is in a document; it may be empty. -/
def documentContent (parser : Parser) : Except Fault Step := do
  let token ← parser.peek
  match token.kind with
  | .version _ _ | .tagDirective _ _ | .documentStart | .documentEnd | .streamEnd =>
    parser.emitEmpty token.start
  | _ => parser.proceed [.node true false]

/-- The end of a document. -/
def documentEnd (parser : Parser) : Except Fault Step := do
  let token ← parser.peek
  let behind := if token.kind = .documentEnd then parser.skip else parser
  (behind.expect [.document]).emit .documentEnd token.start

/-- The anchor and the tag in front of a node, in any order, with the place of the tag. -/
def properties (parser : Parser) :
    Except Fault (Option String × Option (String × Octets × Place) × Parser) := do
  let first ← parser.peek
  match first.kind with
  | .anchor name =>
    let second ← parser.skip.peek
    match second.kind with
    | .tag handle suffix =>
      return (some name, some (handle, suffix, second.start), parser.skip.skip)
    | _ => return (some name, none, parser.skip)
  | .tag handle suffix =>
    let second ← parser.skip.peek
    match second.kind with
    | .anchor name => return (some name, some (handle, suffix, first.start), parser.skip.skip)
    | _ => return (none, some (handle, suffix, first.start), parser.skip)
  | _ => return (none, none, parser)

/-- A tag in full. -/
def fullTag (parser : Parser) (start : Place) :
    Option (String × Octets × Place) → Except Fault (Option Octets)
  | none => .ok none
  | some (handle, suffix, place) =>
    if handle = "" then .ok (some suffix)
    else
      match parser.handles.lookup handle with
      | some lead => .ok (some (lead ++ suffix))
      | none => .error (.malformed .undefinedHandle place (some (.node, start)))

/-- A node. A sequence that is the value of a mapping may stand at the column of the mapping. -/
def node (parser : Parser) (inBlock indentless : Bool) : Except Fault Step := do
  let first ← parser.peek
  let start := first.start
  match first.kind with
  | .alias name => parser.skip.emit (.alias name) start
  | _ =>
    let (anchor?, written?, parser) ← parser.properties
    let token ← parser.peek
    let tag? ← parser.fullTag start written?
    let found : NodeProperties := ⟨anchor?, tag?⟩
    match token.kind with
    | .blockEntry =>
      if indentless then
        (parser.expect [.indentlessSequence]).emit (.sequenceStart found) start
      else if anchor?.isSome || tag?.isSome then parser.emit (.scalar found .plain "") start
      else fail token .noNode (some (if inBlock then .blockNode else .flowNode, start))
    | .scalar style text =>
      parser.skip.emit (.scalar found style text) start
    | .flowSequenceStart =>
      (parser.skip.expect [.flowSequence token.start true]).emit (.sequenceStart found) start
    | .flowMappingStart =>
      (parser.skip.expect [.flowMappingKey token.start true]).emit (.mappingStart found) start
    | kind =>
      if inBlock && kind = .blockSequenceStart then
        (parser.skip.expect [.blockSequence token.start]).emit (.sequenceStart found) start
      else if inBlock && kind = .blockMappingStart then
        (parser.skip.expect [.blockMappingKey token.start]).emit (.mappingStart found) start
      else if anchor?.isSome || tag?.isSome then parser.emit (.scalar found .plain "") start
      else fail token .noNode (some (if inBlock then .blockNode else .flowNode, start))

/-- An entry of a sequence in a block, or its end. -/
def blockSequence (parser : Parser) (opened : Place) : Except Fault Step := do
  let token ← parser.peek
  match token.kind with
  | .blockEntry =>
    let next ← parser.skip.peek
    let more := parser.skip.expect [.blockSequence opened]
    match next.kind with
    | .blockEntry | .blockEnd => more.emitEmpty token.stop
    | _ => more.proceed [.node true false]
  | .blockEnd => parser.skip.emit .sequenceEnd token.start
  | _ => fail token .noHyphen (some (.blockCollection, opened))

/-- An entry of a sequence at the column of the mapping around it, or its end. -/
def indentlessSequence (parser : Parser) : Except Fault Step := do
  let token ← parser.peek
  match token.kind with
  | .blockEntry =>
    let next ← parser.skip.peek
    let more := parser.skip.expect [.indentlessSequence]
    match next.kind with
    | .blockEntry | .key | .value | .blockEnd => more.emitEmpty token.stop
    | _ => more.proceed [.node true false]
  | _ => parser.emit .sequenceEnd token.start

/-- A key of a mapping in a block, or its end. -/
def blockMappingKey (parser : Parser) (opened : Place) : Except Fault Step := do
  let token ← parser.peek
  match token.kind with
  | .key =>
    let next ← parser.skip.peek
    let more := parser.skip.expect [.blockMappingValue, .blockMappingKey opened]
    match next.kind with
    | .key | .value | .blockEnd => more.emitEmpty token.stop
    | _ => more.proceed [.node true true]
  | .blockEnd => parser.skip.emit .mappingEnd token.start
  | _ => fail token .noKey (some (.blockMapping, opened))

/-- A value of a mapping in a block. -/
def blockMappingValue (parser : Parser) : Except Fault Step := do
  let token ← parser.peek
  match token.kind with
  | .value =>
    let next ← parser.skip.peek
    match next.kind with
    | .key | .value | .blockEnd => parser.skip.emitEmpty token.stop
    | _ => parser.skip.proceed [.node true true]
  | _ => parser.emitEmpty token.start

/-- The parser at the next entry of a collection in brackets: behind a comma, unless it is the first
entry. -/
def flowEntry (parser : Parser) (isFirst : Bool) (close : TokenKind) (problem : Problem)
    (activity : Activity) (opened : Place) : Except Fault Parser := do
  let token ← parser.peek
  if isFirst || token.kind = close then return parser
  else if token.kind = .flowEntry then return parser.skip
  else fail token problem (some (activity, opened))

/-- An entry of a sequence in brackets, or its end. -/
def flowSequence (parser : Parser) (opened : Place) (isFirst : Bool) : Except Fault Step := do
  let parser ←
    parser.flowEntry isFirst .flowSequenceEnd .noCommaOrBracket .flowSequence opened
  let token ← parser.peek
  let more := Expectation.flowSequence opened false
  match token.kind with
  | .flowSequenceEnd => parser.skip.emit .sequenceEnd token.start
  | .key =>
    (parser.skip.expect [.flowPairKey, .flowPairValue, .flowPairEnd, more]).emit
      (.mappingStart ⟨none, none⟩) token.start
  | _ => parser.proceed [.node false false, more]

/-- The key of a pair in brackets. The token behind a key that is left out is left out too. -/
def flowPairKey (parser : Parser) : Except Fault Step := do
  let token ← parser.peek
  match token.kind with
  | .value | .flowEntry | .flowSequenceEnd => parser.skip.emitEmpty token.stop
  | _ => parser.proceed [.node false false]

/-- The value of a pair in brackets. -/
def flowPairValue (parser : Parser) : Except Fault Step := do
  let token ← parser.peek
  match token.kind with
  | .value =>
    let next ← parser.skip.peek
    match next.kind with
    | .flowEntry | .flowSequenceEnd => parser.skip.emitEmpty next.start
    | _ => parser.skip.proceed [.node false false]
  | _ => parser.emitEmpty token.start

/-- The end of a pair in brackets. -/
def flowPairEnd (parser : Parser) : Except Fault Step := do
  let token ← parser.peek
  parser.emit .mappingEnd token.start

/-- A key of a mapping in braces, or its end. -/
def flowMappingKey (parser : Parser) (opened : Place) (isFirst : Bool) : Except Fault Step := do
  let parser ← parser.flowEntry isFirst .flowMappingEnd .noCommaOrBrace .flowMapping opened
  let token ← parser.peek
  let more := Expectation.flowMappingKey opened false
  match token.kind with
  | .flowMappingEnd => parser.skip.emit .mappingEnd token.start
  | .key =>
    let next ← parser.skip.peek
    let behind := parser.skip.expect [.flowMappingValue, more]
    match next.kind with
    | .value | .flowEntry | .flowMappingEnd => behind.emitEmpty next.start
    | _ => behind.proceed [.node false false]
  | _ => parser.proceed [.node false false, .flowMappingNoValue, more]

/-- A value of a mapping in braces. -/
def flowMappingValue (parser : Parser) : Except Fault Step := do
  let token ← parser.peek
  match token.kind with
  | .value =>
    let next ← parser.skip.peek
    match next.kind with
    | .flowEntry | .flowMappingEnd => parser.skip.emitEmpty next.start
    | _ => parser.skip.proceed [.node false false]
  | _ => parser.emitEmpty token.start

/-- The value of a key in braces that has no colon. -/
def flowMappingNoValue (parser : Parser) : Except Fault Step := do
  let token ← parser.peek
  parser.emitEmpty token.start

/-- Meets an expectation. -/
def meet (parser : Parser) : Expectation → Except Fault Step
  | .firstDocument => parser.documentStart true
  | .document => parser.documentStart false
  | .documentContent => parser.documentContent
  | .documentEnd => parser.documentEnd
  | .node inBlock indentless => parser.node inBlock indentless
  | .blockSequence opened => parser.blockSequence opened
  | .indentlessSequence => parser.indentlessSequence
  | .blockMappingKey opened => parser.blockMappingKey opened
  | .blockMappingValue => parser.blockMappingValue
  | .flowSequence opened isFirst => parser.flowSequence opened isFirst
  | .flowPairKey => parser.flowPairKey
  | .flowPairValue => parser.flowPairValue
  | .flowPairEnd => parser.flowPairEnd
  | .flowMappingKey opened isFirst => parser.flowMappingKey opened isFirst
  | .flowMappingValue => parser.flowMappingValue
  | .flowMappingNoValue => parser.flowMappingNoValue

end Parser

/-- The events of a text up to its end, or up to a fault. -/
structure EventStream where
  events : List (Event × Place)
  fault? : Option Fault
  deriving Repr

namespace EventStream

/-- An event in front of others. -/
def after (event? : Option (Event × Place)) (stream : EventStream) : EventStream :=
  { stream with events := event?.toList ++ stream.events }

/-- Reads on until nothing is expected. -/
def ofParser (parser : Parser) : Nat → EventStream
  | 0 => ⟨[], none⟩
  | rounds + 1 =>
    match parser.expectations with
    | [] => ⟨[], none⟩
    | expectation :: others =>
      match Parser.meet { parser with expectations := others } expectation with
      | .ok (event?, next) => (ofParser next rounds).after event?
      | .error fault => ⟨[], some fault⟩

/-- How many rounds one token takes at most. -/
def roundsPerToken : Nat := 8

/-- The events of a text. -/
def ofText (text : String) : EventStream :=
  let stream := TokenStream.ofText text
  ofParser ⟨[.firstDocument], stream.tokens, stream.fault?, []⟩
    (roundsPerToken * (stream.tokens.length + 2))

end EventStream

end BehaviorDiff.Yaml
