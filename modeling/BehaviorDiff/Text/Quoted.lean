import BehaviorDiff.Unicode.Unprintable

set_option autoImplicit false

/-!
A text in double quotes, as messages show it. Quotes, backslashes and the common controls have a
two-character escape, whatever cannot be shown has its code point in braces, and all else stands for
itself.
-/

namespace BehaviorDiff.Quoted

/-- A number in lower-case hexadecimal without leading zeros. -/
def hex (n : Nat) : String := String.ofList (Nat.toDigits 16 n)

/-- One character between the quotes. -/
def escape (c : Char) : String :=
  match c with
  | '\x00' => "\\0"
  | '\t' => "\\t"
  | '\n' => "\\n"
  | '\r' => "\\r"
  | '"' => "\\\""
  | '\\' => "\\\\"
  | c =>
    if Unicode.unprintable.contains c.toNat then "\\u\x7b" ++ hex c.toNat ++ "\x7d"
    else c.toString

/-- A text in double quotes. -/
def quote (text : String) : String := "\"" ++ String.join (text.toList.map escape) ++ "\""

end BehaviorDiff.Quoted
