import BehaviorDiff.Decimal.Shortest
import BehaviorDiff.Unicode.CodeRanges

set_option autoImplicit false

/-!
What a plain scalar stands for where any kind of value may stand: nothing, a truth value, a number,
or its own text.
-/

namespace BehaviorDiff.Yaml

/-- What a plain scalar stands for. A number that is not whole is known by its text. -/
inductive Resolution where
  | null
  | boolean (value : Bool)
  | integer (value : Int)
  | real (text : String)
  | text
  deriving DecidableEq, Repr

/-- Whether a scalar stands for nothing. -/
def isNull (text : List Char) : Bool :=
  ["null", "Null", "NULL", "~"].contains (String.ofList text)

/-- The truth value that a scalar stands for. -/
def boolean? (text : List Char) : Option Bool :=
  if ["true", "True", "TRUE"].contains (String.ofList text) then some true
  else if ["false", "False", "FALSE"].contains (String.ofList text) then some false
  else none

/-- The value of a row of digits of a base. -/
def number? (base : Nat) (digits : List Char) : Option Nat :=
  if digits.isEmpty then none
  else digits.foldlM (fun value c =>
    match CodeRanges.hexDigit? c with
    | some digit => if digit < base then some (value * base + digit) else none
    | none => none) 0

/-- Whether a row of digits begins with a zero that does not count; it is no number then. -/
def hasIdleZero (text : List Char) : Bool :=
  let unsigned := match text with
    | c :: rest => if c = '-' || c = '+' then rest else text
    | [] => []
  match unsigned with
  | '0' :: digits => !digits.isEmpty && digits.all Char.isDigit
  | _ => false

/-- The whole number that an unsigned scalar stands for; three bases have marks of their own. -/
def natural? (unsigned : List Char) : Option Nat :=
  let marked := match unsigned with
    | '0' :: 'x' :: digits => number? 16 digits
    | '0' :: 'o' :: digits => number? 8 digits
    | '0' :: 'b' :: digits => number? 2 digits
    | _ => none
  marked.or (if hasIdleZero unsigned then none else number? 10 unsigned)

/-- A whole number if 128 bits can hold it, with its sign if it has one. -/
def limited? (negative : Bool) (value : Nat) : Option Int :=
  if negative then if value ≤ Nat.pow 2 127 then some (-(value : Int)) else none
  else if value < Nat.pow 2 128 then some (value : Int) else none

/-- The whole number that a scalar stands for. -/
def integer? (text : List Char) : Option Int :=
  match text with
  | '-' :: unsigned => (natural? unsigned).bind (limited? true)
  | '+' :: unsigned => (natural? unsigned).bind (limited? false)
  | unsigned => (natural? unsigned).bind (limited? false)

/-- The exponent behind the digits of a number; none counts as zero. -/
def exponent? (text : List Char) : Option Int :=
  match text with
  | [] => some 0
  | c :: signed =>
    if c = 'e' || c = 'E' then
      match signed with
      | '-' :: digits => (number? 10 digits).map fun value => -(value : Int)
      | '+' :: digits => (number? 10 digits).map fun value => (value : Int)
      | digits => (number? 10 digits).map fun value => (value : Int)
    else none

/-- The decimal that an unsigned scalar is: digits with or without a point, and maybe an exponent.
-/
def decimal? (unsigned : List Char) : Option Decimal.Scientific :=
  let whole := unsigned.takeWhile Char.isDigit
  let behind := unsigned.dropWhile Char.isDigit
  let (part, tail) := match behind with
    | '.' :: rest => (rest.takeWhile Char.isDigit, rest.dropWhile Char.isDigit)
    | _ => ([], behind)
  match number? 10 (whole ++ part), exponent? tail with
  | some digits, some exponent => some ⟨digits, exponent - part.length⟩
  | _, _ => none

/-- The text of the finite number that an unsigned scalar stands for. -/
def finite? (unsigned : List Char) : Option String :=
  ((decimal? unsigned).bind Decimal.Scientific.nearest?).map (·.shortest.text)

/-- The text of the number that a scalar stands for, finite or not. -/
def real? (text : List Char) : Option String :=
  let (sign, unsigned) := match text with
    | '-' :: rest => ("-", rest)
    | '+' :: rest => ("", rest)
    | _ => ("", text)
  if [".inf", ".Inf", ".INF"].contains (String.ofList unsigned) then some (sign ++ "inf")
  else if [".nan", ".NaN", ".NAN"].contains (String.ofList text) then some "NaN"
  else (finite? unsigned).map (sign ++ ·)

/-- What a plain scalar stands for. -/
def resolve (text : List Char) : Resolution :=
  if text.isEmpty || isNull text then .null
  else
    match boolean? text with
    | some value => .boolean value
    | none =>
      match integer? text with
      | some value => .integer value
      | none =>
        if hasIdleZero text then .text
        else
          match real? text with
          | some shown => .real shown
          | none => .text

end BehaviorDiff.Yaml
