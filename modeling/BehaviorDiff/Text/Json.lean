set_option autoImplicit false

/-!
Values of the JSON data format and their two written forms: indented, with one item to a line, and
compact. Fields are written in the order in which an object lists them. A text escapes quotes,
backslashes and control characters and keeps everything else.
-/

namespace BehaviorDiff

/-- A JSON value without fractions. -/
inductive JsonValue where
  | text (value : String)
  | number (value : Nat)
  | list (items : List JsonValue)
  | object (fields : List (String × JsonValue))

namespace JsonValue

/-- A control character by number. -/
def controlEscape (c : Char) : String :=
  let digits := Nat.toDigits 16 c.toNat
  "\\u" ++ String.ofList (List.replicate (4 - digits.length) '0' ++ digits)

/-- How a text writes one character. -/
def escapeCharacter (c : Char) : String :=
  match c with
  | '"' => "\\\""
  | '\\' => "\\\\"
  | '\x08' => "\\b"
  | '\x0c' => "\\f"
  | '\n' => "\\n"
  | '\r' => "\\r"
  | '\t' => "\\t"
  | c => if c.toNat < 0x20 then controlEscape c else c.toString

/-- The written form of a text, quotes included. -/
def quoted (value : String) : String :=
  "\"" ++ String.join (value.toList.map escapeCharacter) ++ "\""

/-- A line break and the indentation of a level. -/
def newline (level : Nat) : String := "\n" ++ String.ofList (List.replicate (2 * level) ' ')

mutual

/-- The indented form of a value that stands at a level. -/
def pretty (level : Nat) : JsonValue → String
  | text value => quoted value
  | number value => toString value
  | list [] => "[]"
  | list (item :: items) =>
    "[" ++ newline (level + 1) ++ pretty (level + 1) item ++ prettyItems (level + 1) items ++
      newline level ++ "]"
  | object [] => "\x7b\x7d"
  | object ((name, value) :: fields) =>
    "\x7b" ++ newline (level + 1) ++ quoted name ++ ": " ++ pretty (level + 1) value ++
      prettyFields (level + 1) fields ++ newline level ++ "\x7d"

/-- The items behind the first one, each behind a comma. -/
def prettyItems (level : Nat) : List JsonValue → String
  | [] => ""
  | item :: items => "," ++ newline level ++ pretty level item ++ prettyItems level items

/-- The fields behind the first one, each behind a comma. -/
def prettyFields (level : Nat) : List (String × JsonValue) → String
  | [] => ""
  | (name, value) :: fields =>
    "," ++ newline level ++ quoted name ++ ": " ++ pretty level value ++ prettyFields level fields

end

mutual

/-- The compact form of a value. -/
def compact : JsonValue → String
  | text value => quoted value
  | number value => toString value
  | list [] => "[]"
  | list (item :: items) => "[" ++ compact item ++ compactItems items ++ "]"
  | object [] => "\x7b\x7d"
  | object ((name, value) :: fields) =>
    "\x7b" ++ quoted name ++ ":" ++ compact value ++ compactFields fields ++ "\x7d"

/-- The items behind the first one, each behind a comma. -/
def compactItems : List JsonValue → String
  | [] => ""
  | item :: items => "," ++ compact item ++ compactItems items

/-- The fields behind the first one, each behind a comma. -/
def compactFields : List (String × JsonValue) → String
  | [] => ""
  | (name, value) :: fields =>
    "," ++ quoted name ++ ":" ++ compact value ++ compactFields fields

end

end JsonValue

end BehaviorDiff
