set_option autoImplicit false

/-!
Complaints about patterns. A complaint names a fault and marks the place in the pattern: the pattern
is shown with carets under the place, and a pattern of several lines with numbers before its lines.
-/

namespace BehaviorDiff.Pattern

/-- A place in a pattern, between two characters. Lines and columns count from one. -/
structure Place where
  line : Nat
  column : Nat
  deriving DecidableEq, Repr

/-- A part of a pattern. -/
structure Span where
  start : Place
  stop : Place
  deriving DecidableEq, Repr

/-- What is wrong with a pattern. -/
inductive Fault where
  | classEscapeInvalid
  | classRangeInvalid
  | classRangeLiteral
  | classUnclosed
  | decimalEmpty
  | decimalInvalid
  | escapeHexEmpty
  | escapeHexInvalid
  | escapeHexInvalidDigit
  | escapeUnexpectedEnd
  | escapeUnrecognized
  | flagDanglingNegation
  | flagDuplicate
  | flagRepeatedNegation
  | flagUnexpectedEnd
  | flagUnrecognized
  | groupNameDuplicate
  | groupNameEmpty
  | groupNameInvalid
  | groupNameUnexpectedEnd
  | groupUnclosed
  | groupUnopened
  | nestLimitExceeded (limit : Nat)
  | repetitionCountInvalid
  | repetitionCountDecimalEmpty
  | repetitionCountUnclosed
  | repetitionMissing
  | wordBoundaryUnclosed
  | wordBoundaryUnrecognized
  | wordBoundaryUnexpectedEnd
  | unicodeClassInvalid
  | unsupportedBackreference
  | unsupportedLookAround
  | unicodeNotAllowed
  | invalidUtf8
  | propertyNotFound
  | propertyValueNotFound
  deriving DecidableEq, Repr

/-- The text of a fault. -/
def Fault.message : Fault → String
  | classEscapeInvalid => "invalid escape sequence found in character class"
  | classRangeInvalid => "invalid character class range, the start must be <= the end"
  | classRangeLiteral => "invalid range boundary, must be a literal"
  | classUnclosed => "unclosed character class"
  | decimalEmpty => "decimal literal empty"
  | decimalInvalid => "decimal literal invalid"
  | escapeHexEmpty => "hexadecimal literal empty"
  | escapeHexInvalid => "hexadecimal literal is not a Unicode scalar value"
  | escapeHexInvalidDigit => "invalid hexadecimal digit"
  | escapeUnexpectedEnd => "incomplete escape sequence, reached end of pattern prematurely"
  | escapeUnrecognized => "unrecognized escape sequence"
  | flagDanglingNegation => "dangling flag negation operator"
  | flagDuplicate => "duplicate flag"
  | flagRepeatedNegation => "flag negation operator repeated"
  | flagUnexpectedEnd => "expected flag but got end of regex"
  | flagUnrecognized => "unrecognized flag"
  | groupNameDuplicate => "duplicate capture group name"
  | groupNameEmpty => "empty capture group name"
  | groupNameInvalid => "invalid capture group character"
  | groupNameUnexpectedEnd => "unclosed capture group name"
  | groupUnclosed => "unclosed group"
  | groupUnopened => "unopened group"
  | nestLimitExceeded limit =>
    "exceed the maximum number of nested parentheses/brackets (" ++ toString limit ++ ")"
  | repetitionCountInvalid => "invalid repetition count range, the start must be <= the end"
  | repetitionCountDecimalEmpty => "repetition quantifier expects a valid decimal"
  | repetitionCountUnclosed => "unclosed counted repetition"
  | repetitionMissing => "repetition operator missing expression"
  | wordBoundaryUnclosed =>
    "special word boundary assertion is either unclosed or contains an invalid character"
  | wordBoundaryUnrecognized =>
    "unrecognized special word boundary assertion, valid choices are: start, end, start-half or end-half"
  | wordBoundaryUnexpectedEnd =>
    "found either the beginning of a special word boundary or a bounded repetition on a \\b with " ++
      "an opening brace, but no closing brace"
  | unicodeClassInvalid => "invalid Unicode character class"
  | unsupportedBackreference => "backreferences are not supported"
  | unsupportedLookAround => "look-around, including look-ahead and look-behind, is not supported"
  | unicodeNotAllowed => "Unicode not allowed here"
  | invalidUtf8 => "pattern can match invalid UTF-8"
  | propertyNotFound => "Unicode property not found"
  | propertyValueNotFound => "Unicode property value not found"

/-- A fault, where it is, and the earlier place that it refers to. -/
structure Complaint where
  span : Span
  earlier : Option Span
  fault : Fault
  deriving DecidableEq, Repr

/-- Why a pattern is refused. -/
inductive PatternError where
  | malformed (pattern : String) (complaint : Complaint)
  | tooLarge (limit : Nat)
  deriving DecidableEq, Repr

/-- The lines of a pattern as they are shown: without line ends, and without an empty last line. -/
def shownLines (pattern : String) : List String :=
  let lines := pattern.splitToList (· = '\n')
  let shown := if lines.getLast? = some "" then lines.dropLast else lines
  let count := lines.length
  shown.zipIdx.map fun (line, index) =>
    if index + 1 < count && line.endsWith "\r" then (line.dropEnd 1).toString else line

/-- Carets under the parts of one line, in the order of the parts. -/
def carets (spans : List Span) : String :=
  String.ofList (spans.foldl
    (fun (notes : List Char) span =>
      let blanks := List.replicate (span.start.column - 1 - notes.length) ' '
      notes ++ blanks ++ List.replicate (max 1 (span.stop.column - span.start.column)) '^') [])

/-- The parts that a complaint marks, in the order of the pattern. -/
def Complaint.spans (complaint : Complaint) : List Span :=
  match complaint.earlier with
  | none => [complaint.span]
  | some other =>
    let first := complaint.span.start
    if other.start.line < first.line ∨
        other.start.line = first.line ∧ other.start.column ≤ first.column
    then [other, complaint.span] else [complaint.span, other]

/-- The pattern with carets under the parts that a complaint marks. -/
def notated (pattern : String) (complaint : Complaint) : String :=
  let lines := shownLines pattern
  let width :=
    if pattern.contains '\n' then (toString (pattern.splitToList (· = '\n')).length).length else 0
  let margin (number : Nat) : String :=
    if width = 0 then "    "
    else
      let digits := toString number
      String.ofList (List.replicate (width - digits.length) ' ') ++ digits ++ ": "
  let noteMargin := String.ofList (List.replicate (if width = 0 then 4 else width + 2) ' ')
  String.join (lines.zipIdx.map fun (line, index) =>
    let marked := complaint.spans.filter fun span =>
      span.start.line = index + 1 && span.stop.line = index + 1
    margin (index + 1) ++ line ++ "\n" ++
      if marked.isEmpty then "" else noteMargin ++ carets marked ++ "\n")

/-- Where the marked parts lie that run over several lines. -/
def multiLineNotes (complaint : Complaint) : List String :=
  (complaint.spans.filter fun span => span.start.line ≠ span.stop.line).map fun span =>
    "on line " ++ toString span.start.line ++ " (column " ++ toString span.start.column ++
      ") through line " ++ toString span.stop.line ++ " (column " ++
      toString (span.stop.column - 1) ++ ")"

/-- The text of the complaint. -/
def PatternError.message : PatternError → String
  | malformed pattern complaint =>
    if pattern.contains '\n' then
      let divider := String.ofList (List.replicate 79 '~') ++ "\n"
      let notes := multiLineNotes complaint
      "regex parse error:\n" ++ divider ++ notated pattern complaint ++ divider ++
        (if notes.isEmpty then "" else "\n".intercalate notes ++ "\n") ++
        "error: " ++ complaint.fault.message
    else "regex parse error:\n" ++ notated pattern complaint ++ "error: " ++ complaint.fault.message
  | tooLarge limit => "Compiled regex exceeds size limit of " ++ toString limit ++ " bytes."

end BehaviorDiff.Pattern
