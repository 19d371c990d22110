import BehaviorDiff.Yaml.Cursor
import BehaviorDiff.Unicode.CodeRanges

set_option autoImplicit false

/-!
The text of scalars. A plain or quoted scalar may go on in the next line: one line end counts as a
space, and of several the first does not count. A block scalar keeps its lines or folds them; the
indentation of its first line, or the one that its header gives, is not part of it.
-/

namespace BehaviorDiff.Yaml

/-- How a scalar is written. -/
inductive ScalarStyle where
  | plain
  | singleQuoted
  | doubleQuoted
  | literal
  | folded
  deriving DecidableEq, Repr

/-- A scalar that has been read. `brokenLine` says that a plain scalar ends where a line begins. -/
structure ScalarText where
  text : List Char
  behind : Cursor
  brokenLine : Bool

/-- A scalar with some text in front. -/
def ScalarText.after (text : List Char) (scalar : ScalarText) : ScalarText :=
  { scalar with text := text ++ scalar.text }

/-- What stands between two words of a scalar: blanks, or line ends. A line end behind a backslash
is not among them. -/
inductive Gap where
  | none
  | blanks (text : List Char)
  | lines (first : Option Char) (more : List Char)
  deriving DecidableEq, Repr

namespace Gap

/-- A gap and a blank behind it; blanks at the beginning of a line do not count. -/
def addBlank (c : Char) : Gap → Gap
  | none => blanks [c]
  | blanks text => blanks (text ++ [c])
  | lines first more => lines first more

/-- A gap and a line end behind it; blanks at the end of a line do not count. -/
def addBreak (c : Char) : Gap → Gap
  | lines first more => lines first (more ++ [breakText c])
  | _ => lines (some (breakText c)) []

/-- Whether a line ends in the gap. -/
def isLines : Gap → Bool
  | lines _ _ => true
  | _ => false

/-- What a gap leaves in the text of the scalar. -/
def text : Gap → List Char
  | none => []
  | blanks text => text
  | lines (some '\n') [] => [' ']
  | lines (some '\n') more => more
  | lines first more => first.toList ++ more

end Gap

/-- Whether a plain scalar ends before a character that is no blank. -/
def endsPlain (inFlow : Bool) (indent : Nat) (gap : Gap) (place : Place) (c : Char)
    (rest : List Char) : Bool :=
  (gap ≠ .none && ((!inFlow && place.column < indent) || c = '#' ||
    (place.column = 0 && isDocumentBound (c :: rest)))) ||
    (c = ':' && endsWord rest) || (inFlow && isFlowIndicator c)

/-- Reads a plain scalar that began at `start`, behind a gap. Outside of brackets its lines begin at
the column `indent` or behind. -/
def readPlain (inFlow : Bool) (indent : Nat) (start : Place) (gap : Gap) (place : Place) :
    List Char → Except Fault ScalarText
  | [] => .ok ⟨[], ⟨place, []⟩, gap.isLines⟩
  | c :: rest =>
    if isHalfBreak c rest then readPlain inFlow indent start gap place.halfway rest
    else if isBreak c then readPlain inFlow indent start (gap.addBreak c) (place.nextLine c) rest
    else if isBlank c then
      if gap.isLines && place.column < indent && c = '\t' then
        (Cursor.mk place []).fault .tabInIndentation .plainScalar start
      else readPlain inFlow indent start (gap.addBlank c) (place.next c) rest
    else if endsPlain inFlow indent gap place c rest then
      .ok ⟨[], ⟨place, c :: rest⟩, gap.isLines⟩
    else if inFlow && c = ':' && (rest.head?.map fun d => isFlowIndicator d || d = '?').getD false
    then (Cursor.mk place []).fault .colonInFlow .plainScalar start
    else
      (readPlain inFlow indent start .none (place.next c) rest).map (·.after (gap.text ++ [c]))

/-- What a character behind a backslash begins. -/
inductive Escape where
  | character (c : Char)
  | code (digits : Nat)
  deriving DecidableEq, Repr

/-- The escapes of double quoted scalars. -/
def Escape.ofChar? : Char → Option Escape
  | '0' => some (.character '\x00')
  | 'a' => some (.character '\x07')
  | 'b' => some (.character '\x08')
  | 't' => some (.character '\t')
  | '\t' => some (.character '\t')
  | 'n' => some (.character '\n')
  | 'v' => some (.character '\x0b')
  | 'f' => some (.character '\x0c')
  | 'r' => some (.character '\r')
  | 'e' => some (.character '\x1b')
  | ' ' => some (.character ' ')
  | '"' => some (.character '"')
  | '/' => some (.character '/')
  | '\\' => some (.character '\\')
  | 'N' => some (.character nextLine)
  | '_' => some (.character '\u00a0')
  | 'L' => some (.character lineSeparator)
  | 'P' => some (.character paragraphSeparator)
  | 'x' => some (.code 2)
  | 'u' => some (.code 4)
  | 'U' => some (.code 8)
  | _ => none

/-- What the next character of a quoted scalar is: part of the text, the second of two quotes, the
one behind a backslash, or a digit of a character by number. -/
inductive QuotedMode where
  | text (gap : Gap)
  | doubled
  | escape
  | lineEnd
  | code (missing : Nat) (value : Nat) (began : Place)
  deriving Repr

/-- Reads a quoted scalar that began at `start`, up to and with its closing quote. -/
def readQuoted (single : Bool) (start : Place) (mode : QuotedMode) (place : Place) :
    List Char → Except Fault ScalarText
  | [] =>
    match mode with
    | .code _ _ began => (Cursor.mk began []).fault .noHexDigits .quotedEscape start
    | _ => (Cursor.mk place []).fault .endInScalar .quotedScalar start
  | c :: rest =>
    match mode with
    | .doubled => (readQuoted single start (.text .none) (place.next c) rest).map (·.after [c])
    | .escape =>
      match Escape.ofChar? c with
      | some (.character d) =>
        (readQuoted single start (.text .none) (place.next c) rest).map (·.after [d])
      | some (.code digits) =>
        readQuoted single start (.code digits 0 (place.next c)) (place.next c) rest
      | none => (Cursor.mk place []).fault .unknownEscape .quotedEscape start
    | .lineEnd =>
      if isHalfBreak c rest then readQuoted single start .lineEnd place.halfway rest
      else readQuoted single start (.text (.lines none [])) (place.nextLine c) rest
    | .code missing value began =>
      match CodeRanges.hexDigit? c with
      | none => (Cursor.mk began []).fault .noHexDigits .quotedEscape start
      | some digit =>
        let value := value * 16 + digit
        if missing ≤ 1 then
          if value.isValidChar then
            (readQuoted single start (.text .none) (place.next c) rest).map
              (·.after [Char.ofNat value])
          else (Cursor.mk began []).fault .noScalarValue .quotedEscape start
        else readQuoted single start (.code (missing - 1) value began) (place.next c) rest
    | .text gap =>
      if isHalfBreak c rest then readQuoted single start (.text gap) place.halfway rest
      else if isBreak c then
        readQuoted single start (.text (gap.addBreak c)) (place.nextLine c) rest
      else if isBlank c then readQuoted single start (.text (gap.addBlank c)) (place.next c) rest
      else if place.column = 0 && isDocumentBound (c :: rest) then
        (Cursor.mk place []).fault .boundInScalar .quotedScalar start
      else if single && c = '\'' && rest.head? = some '\'' then
        (readQuoted single start .doubled (place.next c) rest).map (·.after gap.text)
      else if c = (if single then '\'' else '"') then
        .ok ⟨gap.text, ⟨place.next c, rest⟩, false⟩
      else if !single && c = '\\' then
        match rest.head? with
        | none => (Cursor.mk place []).fault .unknownEscape .quotedEscape start
        | some d =>
          if isBreak d then
            (readQuoted single start .lineEnd (place.next c) rest).map (·.after gap.text)
          else if (Escape.ofChar? d).isSome then
            (readQuoted single start .escape (place.next c) rest).map (·.after gap.text)
          else (Cursor.mk place []).fault .unknownEscape .quotedEscape start
      else
        (readQuoted single start (.text .none) (place.next c) rest).map
          (·.after (gap.text ++ [c]))

/-- What happens to the line ends at the end of a block scalar: one stays, none, or all. -/
inductive Chomping where
  | clip
  | strip
  | keep
  deriving DecidableEq, Repr

/-- How a block scalar is to be read. -/
structure BlockHeader where
  folded : Bool
  chomping : Chomping
  increment? : Option Nat
  deriving DecidableEq, Repr

/-- Where the reader of a block scalar is. `lineBreak?` ends the last line of text, `breaks` end the
empty lines behind it, and `widest` is the longest indentation of an empty line. -/
structure BlockState where
  indent? : Option Nat
  widest : Nat
  lineBreak? : Option Char
  breaks : List Char
  leadingBlank : Bool
  inLine : Bool

/-- What joins a line of a block scalar to the text before it; two lines that begin with no blank
are folded into one. -/
def BlockState.join (state : BlockState) (folded : Bool) (c : Char) : List Char :=
  if folded && state.lineBreak? = some '\n' && !state.leadingBlank && !isBlank c then
    if state.breaks.isEmpty then [' '] else state.breaks
  else state.lineBreak?.toList ++ state.breaks

/-- The line ends that stay at the end of a block scalar. -/
def BlockState.tail (state : BlockState) : Chomping → List Char
  | .strip => []
  | .clip => state.lineBreak?.toList
  | .keep => state.lineBreak?.toList ++ state.breaks

/-- Reads the lines of a block scalar that began at `start`. Without an indentation of its own it is
indented at least to the column `least`. -/
def readBlock (header : BlockHeader) (least : Nat) (start : Place) (state : BlockState)
    (place : Place) : List Char → Except Fault ScalarText
  | [] => .ok ⟨state.tail header.chomping, ⟨place, []⟩, false⟩
  | c :: rest =>
    if isHalfBreak c rest then readBlock header least start state place.halfway rest
    else if state.inLine then
      if isBreak c then
        readBlock header least start
          { state with inLine := false, lineBreak? := some (breakText c) } (place.nextLine c) rest
      else (readBlock header least start state (place.next c) rest).map (·.after [c])
    else
      let inMargin := (state.indent?.map fun indent => decide (place.column < indent)).getD true
      if inMargin && c = ' ' then readBlock header least start state (place.next c) rest
      else if inMargin && c = '\t' then
        (Cursor.mk place []).fault .tabForIndentation .blockScalar start
      else
        let widest := max state.widest place.column
        if isBreak c then
          readBlock header least start
            { state with widest, breaks := state.breaks ++ [breakText c] } (place.nextLine c) rest
        else
          let indent := state.indent?.getD (max widest (max least 1))
          if place.column = indent then
            let next : BlockState := ⟨some indent, widest, none, [], isBlank c, true⟩
            (readBlock header least start next (place.next c) rest).map
              (·.after (state.join header.folded c ++ [c]))
          else .ok ⟨state.tail header.chomping, ⟨place, c :: rest⟩, false⟩

/-- The chomping that a character of a header asks for. -/
def Chomping.ofChar? : Char → Option Chomping
  | '+' => some .keep
  | '-' => some .strip
  | _ => none

/-- The indentation that a header gives, if it gives one. -/
def readIncrement (cursor : Cursor) (start : Place) : Except Fault (Option Nat × Cursor) :=
  match cursor.rest.head? with
  | some c =>
    if c = '0' then cursor.fault .zeroIndentation .blockScalar start
    else if c.isDigit then .ok (some (c.toNat - '0'.toNat), cursor.skip)
    else .ok (none, cursor)
  | none => .ok (none, cursor)

/-- The chomping that a header gives, if it gives one. -/
def readChomping (cursor : Cursor) : Option Chomping × Cursor :=
  match cursor.rest.head?.bind Chomping.ofChar? with
  | some chomping => (some chomping, cursor.skip)
  | none => (none, cursor)

/-- Reads the header of a block scalar; chomping and indentation come in any order. -/
def readBlockHeader (folded : Bool) (cursor : Cursor) (start : Place) :
    Except Fault (BlockHeader × Cursor) := do
  match readChomping cursor with
  | (some chomping, behind) =>
    let (increment?, behind) ← readIncrement behind start
    return (⟨folded, chomping, increment?⟩, behind)
  | (none, _) =>
    let (increment?, behind) ← readIncrement cursor start
    match increment? with
    | none => return (⟨folded, .clip, none⟩, behind)
    | some _ =>
      let (chomping?, behind) := readChomping behind
      return (⟨folded, chomping?.getD .clip, increment?⟩, behind)

/-- Reads a block scalar from its header on; `parent?` is the indentation of what it belongs to. -/
def readBlockScalar (folded : Bool) (parent? : Option Nat) (cursor : Cursor) :
    Except Fault ScalarText := do
  let start := cursor.place
  let (header, behind) ← readBlockHeader folded cursor.skip start
  let lineEnd := behind.skipComment
  if !endsLine lineEnd.rest then lineEnd.fault .noCommentOrBreak .blockScalar start
  else
    let lines := lineEnd.skipBreak
    let indent? := header.increment?.map (· + parent?.getD 0)
    let least := (parent?.map (· + 1)).getD 0
    readBlock header least start ⟨indent?, 0, none, [], false, false⟩ lines.place lines.rest

end BehaviorDiff.Yaml
