import BehaviorDiff.Unicode.CodeRanges

set_option autoImplicit false

/-!
The characters of YAML: which may stand in a text, which end a line, and which have a meaning of
their own.
-/

namespace BehaviorDiff.Yaml

/-- Next line, line separator and paragraph separator. -/
def nextLine : Char := '\u0085'

/-- The separator of lines. -/
def lineSeparator : Char := '\u2028'

/-- The separator of paragraphs. -/
def paragraphSeparator : Char := '\u2029'

/-- The mark that may stand in front of a text. -/
def byteOrderMark : Char := '\ufeff'

/-- Whether a character may stand in a text. -/
def isAllowed (c : Char) : Bool :=
  let code := c.toNat
  c = '\t' || c = '\n' || c = '\r' || (0x20 ≤ code && code ≤ 0x7E) || c = nextLine ||
    (0xA0 ≤ code && code ≤ 0xD7FF) || (0xE000 ≤ code && code ≤ 0xFFFD) || 0x10000 ≤ code

/-- Whether a character ends a line. -/
def isBreak (c : Char) : Bool :=
  c = '\n' || c = '\r' || c = nextLine || c = lineSeparator || c = paragraphSeparator

/-- Spaces and tabs. -/
def isBlank (c : Char) : Bool := c = ' ' || c = '\t'

/-- Whether what follows is a blank, the end of a line or the end of the text. -/
def endsWord : List Char → Bool
  | [] => true
  | c :: _ => isBlank c || isBreak c

/-- Whether what follows is the end of a line or of the text. -/
def endsLine : List Char → Bool
  | [] => true
  | c :: _ => isBreak c

/-- What a scalar gets from the end of a line: the separators stay, all others become one. -/
def breakText (c : Char) : Char :=
  if c = lineSeparator || c = paragraphSeparator then c else '\n'

/-- The characters of the names of anchors, directives and tag handles. -/
def isNameCharacter (c : Char) : Bool := c.isAlphanum || c = '_' || c = '-'

/-- The characters that structure a collection in brackets or braces. -/
def isFlowIndicator (c : Char) : Bool :=
  c = ',' || c = '[' || c = ']' || c = '\x7b' || c = '\x7d'

/-- The characters that cannot begin a plain scalar, or only before certain others. -/
def isIndicator (c : Char) : Bool :=
  isFlowIndicator c || "-?:#&*!|>'\"%@\x60".toList.contains c

/-- The characters of a tag; a verbatim tag may hold some flow indicators too. -/
def isTagCharacter (verbatim : Bool) (c : Char) : Bool :=
  isNameCharacter c || ";/?:@&=+$.%!~*'()".toList.contains c ||
    (verbatim && (c = ',' || c = '[' || c = ']'))

/-- The bytes of a tag. A tag may be written by bytes that are no text. -/
abbrev Octets := List UInt8

/-- A text as bytes. -/
def octets (text : List Char) : Octets := text.flatMap String.utf8EncodeChar

/-- The text of bytes, if they are one. -/
def textOf? (octets : Octets) : Option String := String.fromUTF8? ⟨octets.toArray⟩

/-- Whether a mark of three characters begins a line of its own: the bounds of documents. -/
def isBound (mark : Char) : List Char → Bool
  | a :: b :: c :: rest => a = mark && b = mark && c = mark && endsWord rest
  | _ => false

/-- Whether the bound of a document follows. -/
def isDocumentBound (text : List Char) : Bool := isBound '-' text || isBound '.' text

end BehaviorDiff.Yaml
