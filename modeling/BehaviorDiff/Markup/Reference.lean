import BehaviorDiff.Markup.Characters
import BehaviorDiff.Text.Quoted

set_option autoImplicit false

/-!
Character references in attribute values: five named ones and those by number. Reading replaces each
by the character it stands for and keeps everything else as it is.
-/

namespace BehaviorDiff.Markup

/-- What is wrong with a reference; positions count the bytes of the value. -/
inductive ReferenceFault where
  | unknown (start stop : Nat) (name : String)
  | unterminated (start stop : Nat)
  | null (start stop : Nat)
  | longHexadecimal
  | longDecimal
  | badHexadecimal (digit : Char)
  | badDecimal (digit : Char)
  | noCodePoint (code : Nat)
  deriving DecidableEq, Repr

namespace ReferenceFault

private def range (start stop : Nat) : String :=
  "Error while escaping character at range " ++ toString start ++ ".." ++ toString stop ++ ": "

/-- The text of the complaint. -/
def message : ReferenceFault → String
  | unknown start stop name =>
    range start stop ++ "Unrecognized escape symbol: " ++ Quoted.quote name
  | unterminated start stop => range start stop ++ "Cannot find ';' after '&'"
  | null start stop => range start stop ++ "Null character entity not allowed"
  | longHexadecimal => "Cannot convert hexadecimal to utf8"
  | longDecimal => "Cannot convert decimal to utf8"
  | badHexadecimal digit => "'" ++ digit.toString ++ "' is not a valid hexadecimal character"
  | badDecimal digit => "'" ++ digit.toString ++ "' is not a valid decimal character"
  | noCodePoint code => "'" ++ toString code ++ "' is not a valid codepoint"

end ReferenceFault

/-- The characters that have a name. -/
def namedCharacters : List (String × Char) :=
  [("lt", '<'), ("gt", '>'), ("amp", '&'), ("apos", '\''), ("quot", '"')]

/-- The value of a row of digits, or the first digit that is none. -/
def digitsValue (base : Nat) (bad : Char → ReferenceFault) (digits : List Char) :
    Except ReferenceFault Nat :=
  digits.foldlM (fun value c =>
    match CodeRanges.hexDigit? c with
    | some digit => if digit < base then .ok (value * base + digit) else .error (bad (firstByte c))
    | none => .error (bad (firstByte c))) 0

/-- The code point of a reference by number, from the text behind `#`. -/
def codePoint : List Char → Except ReferenceFault Nat
  | 'x' :: digits =>
    if byteLength digits > 6 then .error .longHexadecimal
    else digitsValue 16 .badHexadecimal digits
  | digits =>
    if byteLength digits > 7 then .error .longDecimal else digitsValue 10 .badDecimal digits

/-- The character of a reference whose text stands between two positions of a value. -/
def referencedCharacter (start stop : Nat) (text : List Char) : Except ReferenceFault Char :=
  match text with
  | '#' :: number => do
    let code ← codePoint number
    if code = 0 then .error (.null start stop)
    else if code.isValidChar then .ok (Char.ofNat code) else .error (.noCodePoint code)
  | name =>
    match namedCharacters.lookup (String.ofList name) with
    | some c => .ok c
    | none => .error (.unknown (start + 1) stop (String.ofList name))

/-- Replaces the references in the rest of a value of a given length in bytes. -/
def resolveFrom (length : Nat) : List Char → Except ReferenceFault (List Char)
  | [] => .ok []
  | '&' :: rest =>
    let start := length - byteLength rest - 1
    match h : splitAtFirst (fun c => c = '&' || c = ';') rest with
    | (text, ';' :: after) => do
      let c ← referencedCharacter start (start + 1 + byteLength text) text
      return c :: (← resolveFrom length after)
    | _ => .error (.unterminated start length)
  | c :: rest => do return c :: (← resolveFrom length rest)
termination_by value => value.length
decreasing_by
  · have := length_splitAtFirst (fun c => c = '&' || c = ';') rest
    simp only [h, List.length_cons] at this ⊢
    omega
  · simp

/-- A value with every reference replaced by its character. -/
def resolve (value : List Char) : Except ReferenceFault (List Char) :=
  resolveFrom (byteLength value) value

/-- How a character is written between double quotes. -/
def escapeCharacter (c : Char) : List Char :=
  match c with
  | '<' => "&lt;".toList
  | '>' => "&gt;".toList
  | '&' => "&amp;".toList
  | '\'' => "&apos;".toList
  | '"' => "&quot;".toList
  | c => [c]

/-- How a value is written between double quotes. -/
def escape (value : List Char) : List Char := value.flatMap escapeCharacter

end BehaviorDiff.Markup
