import BehaviorDiff.Yaml.Resolution
import BehaviorDiff.Yaml.Scalar

set_option autoImplicit false

/-!
Texts as scalars of a block. A text is written plainly where it can be read back as a text, in
single quotes where it would be read as something else, as a literal block if it has several lines,
and in double quotes if some of its characters have to be escaped.
-/

namespace BehaviorDiff.Yaml.Printer

/-- Whether a character can be shown. -/
def isPrintable (c : Char) : Bool :=
  isAllowed c && c ≠ '\t' && c ≠ '\r' && c ≠ nextLine && c ≠ byteOrderMark

/-- Whether two characters that follow each other are of two classes. -/
def hasPair (first second : Char → Bool) : List Char → Bool
  | a :: b :: rest => (first a && second b) || hasPair first second (b :: rest)
  | _ => false

/-- Whether a text can be written in double quotes only. -/
def needsEscapes (text : List Char) : Bool :=
  text.any (fun c => !isPrintable c) || hasPair (· = ' ') isBreak text

/-- Whether what follows is read as the end of a plain scalar: a colon in front of a blank, or a
number sign behind one. -/
def endsInside (afterBlank : Bool) : List Char → Bool
  | [] => false
  | c :: rest =>
    (c = ':' && endsWord rest) || (c = '#' && afterBlank) ||
      endsInside (isBlank c || isBreak c) rest

/-- Whether the beginning of a text is read as a mark. -/
def beginsWithMark (text : List Char) : Bool :=
  ['-', '-', '-'].isPrefixOf text || ['.', '.', '.'].isPrefixOf text ||
    match text with
    | [] => false
    | c :: rest =>
      if c = '-' || c = '?' || c = ':' then endsWord rest else isIndicator c

/-- Whether a text has a space or a line end at an edge. -/
def hasLooseEdge (text : List Char) : Bool :=
  let isLoose (c? : Option Char) : Bool := (c?.map fun c => c = ' ' || isBreak c).getD false
  isLoose text.head? || isLoose text.getLast?

/-- Whether a text can be written plainly. -/
def isPlain (text : List Char) : Bool :=
  !text.any isBreak && !hasLooseEdge text && !beginsWithMark text && !endsInside false text

/-- How a text is written. -/
def styleOf (text : List Char) : ScalarStyle :=
  if text.contains '\n' then
    if needsEscapes text || text.getLast? = some ' ' then .doubleQuoted else .literal
  else if needsEscapes text || hasPair isBreak (· = ' ') text then .doubleQuoted
  else if resolve text = .text && !hasIdleZero text && isPlain text then .plain
  else .singleQuoted

/-- The blanks in front of the lines of a scalar. -/
def margin : List Char := [' ', ' ']

/-- A text with a margin in front of its lines; empty lines have none. -/
def withMargin (atLineStart : Bool) : List Char → List Char
  | [] => []
  | c :: rest =>
    if isBreak c then c :: withMargin true rest
    else (if atLineStart then margin else []) ++ c :: withMargin false rest

/-- The sign of a literal block for the width of its margin, which it needs if the text itself
begins with a space or a line end. -/
def marginSign (text : List Char) : List Char :=
  match text with
  | [] => []
  | c :: _ => if c = ' ' || isBreak c then ['2'] else []

/-- The sign of a literal block for the line ends at its end: none, one, or more of them. -/
def chompingSign (text : List Char) : List Char :=
  match text.reverse with
  | [] => ['-']
  | [c] => if isBreak c then ['+'] else ['-']
  | c :: d :: _ => if !isBreak c then ['-'] else if isBreak d then ['+'] else []

/-- A literal block with the end of its last line. -/
def literal (text : List Char) : List Char :=
  let isEnded := (text.getLast?.map isBreak).getD false
  '|' :: marginSign text ++ chompingSign text ++ '\n' :: withMargin true text ++
    if isEnded then [] else ['\n']

/-- What stands between single quotes: quotes are doubled, and lines have a margin. -/
def singleQuotedText (atLineStart : Bool) : List Char → List Char
  | [] => if atLineStart then margin else []
  | c :: rest =>
    if isBreak c then c :: singleQuotedText true rest
    else
      (if atLineStart then margin else []) ++ (if c = '\'' then ['\'', '\''] else [c]) ++
        singleQuotedText false rest

/-- A number in upper-case hexadecimal with a number of digits. -/
def hexDigits (count n : Nat) : List Char :=
  let digits := (Nat.toDigits 16 n).map Char.toUpper
  List.replicate (count - digits.length) '0' ++ digits

/-- A character that cannot stand for itself in double quotes. -/
def escaped (c : Char) : List Char :=
  match c with
  | '\x00' => ['\\', '0']
  | '\x07' => ['\\', 'a']
  | '\x08' => ['\\', 'b']
  | '\t' => ['\\', 't']
  | '\n' => ['\\', 'n']
  | '\x0b' => ['\\', 'v']
  | '\x0c' => ['\\', 'f']
  | '\r' => ['\\', 'r']
  | '\x1b' => ['\\', 'e']
  | '"' => ['\\', '"']
  | '\\' => ['\\', '\\']
  | c =>
    if c = nextLine then ['\\', 'N']
    else if c = lineSeparator then ['\\', 'L']
    else if c = paragraphSeparator then ['\\', 'P']
    else if c.toNat ≤ 0xFF then ['\\', 'x'] ++ hexDigits 2 c.toNat
    else if c.toNat ≤ 0xFFFF then ['\\', 'u'] ++ hexDigits 4 c.toNat
    else ['\\', 'U'] ++ hexDigits 8 c.toNat

/-- What stands between double quotes. -/
def doubleQuotedText (text : List Char) : List Char :=
  text.flatMap fun c =>
    if !isPrintable c || isBreak c || c = '"' || c = '\\' then escaped c else [c]

/-- A text as a scalar, with the end of its line. -/
def scalar (text : String) : List Char :=
  let chars := text.toList
  match styleOf chars with
  | .literal | .folded => literal chars
  | .plain => chars ++ ['\n']
  | .singleQuoted => '\'' :: singleQuotedText false chars ++ ['\'', '\n']
  | .doubleQuoted => '"' :: doubleQuotedText chars ++ ['"', '\n']

/-- A field of a mapping whose value is a text. -/
def field (name : String) (value : String) : List Char := name.toList ++ ':' :: ' ' :: scalar value

/-- A field of a mapping whose value is a list of texts. -/
def listField (name : String) (values : List String) : List Char :=
  if values.isEmpty then name.toList ++ [':', ' ', '[', ']', '\n']
  else name.toList ++ ':' :: '\n' :: values.flatMap fun value => '-' :: ' ' :: scalar value

/-- A field of a mapping whose value is a truth value. -/
def booleanField (name : String) (value : Bool) : List Char :=
  name.toList ++ ':' :: ' ' :: (if value then "true" else "false").toList ++ ['\n']

end BehaviorDiff.Yaml.Printer
