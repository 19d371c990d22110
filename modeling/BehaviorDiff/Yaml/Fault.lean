set_option autoImplicit false

/-!
What can be wrong with a YAML text. A fault says what is wrong and where, and what was being read
and where that began.
-/

namespace BehaviorDiff.Yaml

/-- A place in a text. All counts begin at zero; `index` counts bytes, and `column` characters. -/
structure Place where
  index : Nat
  line : Nat
  column : Nat
  deriving DecidableEq, Repr

namespace Place

/-- The beginning of a text. -/
def start : Place := ⟨0, 0, 0⟩

/-- The place behind a character of a line. -/
def next (place : Place) (c : Char) : Place :=
  ⟨place.index + c.utf8Size, place.line, place.column + 1⟩

/-- The beginning of the next line, behind the character that ends a line. -/
def nextLine (place : Place) (c : Char) : Place := ⟨place.index + c.utf8Size, place.line + 1, 0⟩

/-- The place as it is shown; the beginning of a text is not. -/
def shown? (place : Place) : Option String :=
  if place.line = 0 ∧ place.column = 0 then none
  else some ("line " ++ toString (place.line + 1) ++ " column " ++ toString (place.column + 1))

end Place

/-- What was being read when a fault was found. -/
inductive Activity where
  | nextToken
  | simpleKey
  | directive
  | versionDirective
  | tagDirective
  | tagHandle
  | tagDirectiveHandle
  | tagDirectiveEscape
  | anchor
  | alias
  | tag
  | tagSuffix
  | blockScalar
  | quotedScalar
  | quotedEscape
  | plainScalar
  | node
  | blockNode
  | flowNode
  | blockCollection
  | blockMapping
  | flowSequence
  | flowMapping
  deriving DecidableEq, Repr

/-- The text for what was being read. -/
def Activity.text : Activity → String
  | nextToken => "while scanning for the next token"
  | simpleKey => "while scanning a simple key"
  | directive => "while scanning a directive"
  | versionDirective => "while scanning a %YAML directive"
  | tagDirective => "while scanning a %TAG directive"
  | tagHandle => "while scanning a tag directive"
  | tagDirectiveHandle => "while parsing a tag directive"
  | tagDirectiveEscape => "while parsing a %TAG directive"
  | anchor => "while scanning an anchor"
  | .alias => "while scanning an alias"
  | tag => "while scanning a tag"
  | tagSuffix => "while parsing a tag"
  | blockScalar => "while scanning a block scalar"
  | quotedScalar => "while scanning a quoted scalar"
  | quotedEscape => "while parsing a quoted scalar"
  | plainScalar => "while scanning a plain scalar"
  | node => "while parsing a node"
  | blockNode => "while parsing a block node"
  | flowNode => "while parsing a flow node"
  | blockCollection => "while parsing a block collection"
  | blockMapping => "while parsing a block mapping"
  | flowSequence => "while parsing a flow sequence"
  | flowMapping => "while parsing a flow mapping"

/-- What is wrong. -/
inductive Problem where
  | noToken
  | noColon
  | noDirectiveName
  | notAlphabetic
  | unknownDirective
  | noCommentOrBreak
  | noVersionDot
  | longVersion
  | noVersion
  | noBlank
  | noBlankOrBreak
  | noName
  | noClosingAngle
  | noExclamationMark
  | noTagText
  | noEscapedOctet
  | wrongLeadingOctet
  | wrongTrailingOctet
  | zeroIndentation
  | tabForIndentation
  | tabInIndentation
  | boundInScalar
  | endInScalar
  | unknownEscape
  | noHexDigits
  | noScalarValue
  | colonInFlow
  | entryNotAllowed
  | keyNotAllowed
  | valueNotAllowed
  | noDocumentStart
  | duplicateVersion
  | otherVersion
  | duplicateHandle
  | undefinedHandle
  | noNode
  | noHyphen
  | noKey
  | noCommaOrBracket
  | noCommaOrBrace
  deriving DecidableEq, Repr

/-- The text for what is wrong. -/
def Problem.text : Problem → String
  | noToken => "found character that cannot start any token"
  | noColon => "could not find expected ':'"
  | noDirectiveName => "could not find expected directive name"
  | notAlphabetic => "found unexpected non-alphabetical character"
  | unknownDirective => "found unknown directive name"
  | noCommentOrBreak => "did not find expected comment or line break"
  | noVersionDot => "did not find expected digit or '.' character"
  | longVersion => "found extremely long version number"
  | noVersion => "did not find expected version number"
  | noBlank => "did not find expected whitespace"
  | noBlankOrBreak => "did not find expected whitespace or line break"
  | noName => "did not find expected alphabetic or numeric character"
  | noClosingAngle => "did not find the expected '>'"
  | noExclamationMark => "did not find expected '!'"
  | noTagText => "did not find expected tag URI"
  | noEscapedOctet => "did not find URI escaped octet"
  | wrongLeadingOctet => "found an incorrect leading UTF-8 octet"
  | wrongTrailingOctet => "found an incorrect trailing UTF-8 octet"
  | zeroIndentation => "found an indentation indicator equal to 0"
  | tabForIndentation => "found a tab character where an indentation space is expected"
  | tabInIndentation => "found a tab character that violates indentation"
  | boundInScalar => "found unexpected document indicator"
  | endInScalar => "found unexpected end of stream"
  | unknownEscape => "found unknown escape character"
  | noHexDigits => "did not find expected hexadecimal number"
  | noScalarValue => "found invalid Unicode character escape code"
  | colonInFlow => "found unexpected ':'"
  | entryNotAllowed => "block sequence entries are not allowed in this context"
  | keyNotAllowed => "mapping keys are not allowed in this context"
  | valueNotAllowed => "mapping values are not allowed in this context"
  | noDocumentStart => "did not find expected <document start>"
  | duplicateVersion => "found duplicate %YAML directive"
  | otherVersion => "found incompatible YAML document"
  | duplicateHandle => "found duplicate %TAG directive"
  | undefinedHandle => "found undefined tag handle"
  | noNode => "did not find expected node content"
  | noHyphen => "did not find expected '-' indicator"
  | noKey => "did not find expected key"
  | noCommaOrBracket => "did not find expected ',' or ']'"
  | noCommaOrBrace => "did not find expected ',' or '\x7d'"

/-- A fault in a text; `offset` counts bytes. -/
inductive Fault where
  | forbiddenCharacter (offset : Nat)
  | malformed (problem : Problem) (place : Place) (during? : Option (Activity × Place))
  | unknownAnchor (place : Place)
  deriving DecidableEq, Repr

/-- A place behind the text that speaks of it. -/
def atPlace (place : Place) : String := (place.shown?.map (" at " ++ ·)).getD ""

/-- The text of a fault. -/
def Fault.message : Fault → String
  | forbiddenCharacter offset =>
    "control characters are not allowed" ++
      if offset = 0 then "" else " at position " ++ toString offset
  | malformed problem place during? =>
    problem.text ++ atPlace place ++
      match during? with
      | none => ""
      | some (activity, began) =>
        ", " ++ activity.text ++
          if began.line = place.line ∧ began.column = place.column then "" else atPlace began
  | unknownAnchor place => "unknown anchor" ++ atPlace place

end BehaviorDiff.Yaml
