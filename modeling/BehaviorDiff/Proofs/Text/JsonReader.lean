import Mathlib.Data.List.TakeWhile
import BehaviorDiff.Proofs.Text.JsonTokens

set_option autoImplicit false

/-!
The value of a JSON text. A reader takes one token after another and keeps a stack of the lists and
objects that are open. It goes over the tokens of a written value in one go, whatever is open around
it, so reading a text gives back the value that was written.
-/

namespace BehaviorDiff.Json

/-- A JSON value; a number is a whole one times a power of ten. -/
inductive Value where
  | null
  | boolean (value : Bool)
  | number (mantissa exponent : Int)
  | text (value : String)
  | list (items : List Value)
  | object (fields : List (String × Value))

section Numerals

/-- The digits that a text begins with, and the rest; there must be one. -/
def digits? (text : List Char) : Option (List Char × List Char) :=
  let digits := text.takeWhile Char.isDigit
  if digits.isEmpty then none else some (digits, text.dropWhile Char.isDigit)

/-- The digits behind a point, if there is a point, and the rest. -/
def fraction? : List Char → Option (List Char × List Char)
  | '.' :: rest => digits? rest
  | text => some ([], text)

/-- The number behind `e`, with or without a sign; zero if there is no `e`. -/
def exponent? : List Char → Option Int
  | [] => some 0
  | 'e' :: rest | 'E' :: rest =>
    let (sign, rest) :=
      match rest with
      | '-' :: rest => (-1, rest)
      | '+' :: rest => (1, rest)
      | _ => (1, rest)
    match digits? rest with
    | some (digits, []) => some (sign * (Nat.ofDigitChars 10 digits 0 : Int))
    | _ => none
  | _ => none

/-- The number that a word stands for. Only a single zero may be the first digit. -/
def number? (word : List Char) : Option Value := do
  let (sign, word) :=
    match word with
    | '-' :: rest => ((-1 : Int), rest)
    | _ => (1, word)
  let (whole, rest) ← digits? word
  if whole.length > 1 ∧ whole.head? = some '0' then none
  let (part, rest) ← fraction? rest
  let exponent ← exponent? rest
  return .number (sign * (Nat.ofDigitChars 10 (whole ++ part) 0 : Int)) (exponent - part.length)

/-- The value of a word. -/
def wordValue? (word : List Char) : Option Value :=
  if word = "null".toList then some .null
  else if word = "true".toList then some (.boolean true)
  else if word = "false".toList then some (.boolean false)
  else number? word

end Numerals

/-- A list or an object that is open, with what has been read of it, the last one first, and the
name of the field that is being read. -/
inductive Frame where
  | list (items : List Value)
  | object (fields : List (String × Value)) (name : String)

/-- What a reader waits for, with the open lists and objects, the innermost one first: a value, the
first item or field or the end of a list or object, a field, the colon behind a name, or what may
stand behind a value. -/
inductive Stage where
  | expecting (around : List Frame)
  | firstItem (around : List Frame)
  | firstField (around : List Frame)
  | field (around : List Frame) (fields : List (String × Value))
  | colon (around : List Frame) (fields : List (String × Value)) (name : String)
  | behind (around : List Frame) (value : Value)

namespace Stage

/-- Takes the first token of a value. -/
def beginValue (around : List Frame) : Token → Option Stage
  | .text value => some (.behind around (.text value))
  | .word word => (wordValue? word).map (.behind around)
  | .openList => some (.firstItem around)
  | .openObject => some (.firstField around)
  | _ => none

/-- Takes one token. -/
def step : Stage → Token → Option Stage
  | .expecting around, token => beginValue around token
  | .firstItem around, .closeList => some (.behind around (.list []))
  | .firstItem around, token => beginValue (.list [] :: around) token
  | .firstField around, .closeObject => some (.behind around (.object []))
  | .firstField around, .text name => some (.colon around [] name)
  | .field around fields, .text name => some (.colon around fields name)
  | .colon around fields name, .colon => some (.expecting (.object fields name :: around))
  | .behind (.list items :: around) value, .comma =>
    some (.expecting (.list (value :: items) :: around))
  | .behind (.list items :: around) value, .closeList =>
    some (.behind around (.list (value :: items).reverse))
  | .behind (.object fields name :: around) value, .comma =>
    some (.field around ((name, value) :: fields))
  | .behind (.object fields name :: around) value, .closeObject =>
    some (.behind around (.object ((name, value) :: fields).reverse))
  | _, _ => none

/-- Takes tokens in their order. -/
def run (stage : Stage) (tokens : List Token) : Option Stage := tokens.foldlM step stage

/-- The value that has been read, if nothing is open. -/
def finish : Stage → Option Value
  | .behind [] value => some value
  | _ => none

end Stage

/-- The value of a JSON text, if it is one. -/
def read (text : String) : Option Value :=
  (tokensOf? text).bind fun tokens => (Stage.run (.expecting []) tokens).bind Stage.finish

mutual

/-- A written value as it is read. -/
def valueOf : JsonValue → Value
  | .text value => .text value
  | .number value => .number value 0
  | .list items => .list (itemsOf items)
  | .object fields => .object (fieldsOf fields)

/-- Written items as they are read. -/
def itemsOf : List JsonValue → List Value
  | [] => []
  | item :: items => valueOf item :: itemsOf items

/-- Written fields as they are read. -/
def fieldsOf : List (String × JsonValue) → List (String × Value)
  | [] => []
  | (name, value) :: fields => (name, valueOf value) :: fieldsOf fields

end

section Numerals

theorem eq_zero_of_head?_toDigits {n : Nat} (zero : (Nat.toDigits 10 n).head? = some '0') :
    n = 0 := by
  induction n using Nat.strongRecOn with
  | ind n ih =>
    rcases Nat.lt_or_ge n 10 with small | large
    · rw [Nat.toDigits_of_lt_base small] at zero
      exact Nat.digitChar_eq_zero.1 (Option.some.inj zero)
    · rw [Nat.toDigits_of_base_le (by decide) large, List.head?_append,
        Option.or_of_isSome (by simp)] at zero
      have before := ih (n / 10) (by omega) zero
      omega

theorem digits?_toDigits (n : Nat) :
    digits? (Nat.toDigits 10 n) = some (Nat.toDigits 10 n, []) := by
  have digits : ∀ c ∈ Nat.toDigits 10 n, c.isDigit = true :=
    fun _ => Nat.isDigit_of_mem_toDigits (by decide) (by decide)
  rw [digits?, List.takeWhile_eq_self_iff.2 digits, List.dropWhile_eq_nil_iff.2 digits]
  simp

theorem number?_toDigits (n : Nat) : number? (Nat.toDigits 10 n) = some (.number n 0) := by
  have unsigned : ∀ rest, Nat.toDigits 10 n ≠ '-' :: rest := by
    intro rest same
    have digit := Nat.isDigit_of_mem_toDigits (by decide) (by decide)
      (same ▸ List.mem_cons_self : '-' ∈ Nat.toDigits 10 n)
    exact absurd digit (by decide)
  have proper : ¬((Nat.toDigits 10 n).length > 1 ∧ (Nat.toDigits 10 n).head? = some '0') := by
    rintro ⟨long, zero⟩
    rw [eq_zero_of_head?_toDigits zero] at long
    exact absurd long (by decide)
  rw [number?]
  · simp [digits?_toDigits, proper, fraction?, exponent?]
  · exact unsigned

theorem wordValue?_toDigits (n : Nat) : wordValue? (Nat.toDigits 10 n) = some (.number n 0) := by
  have digits : ∀ c ∈ Nat.toDigits 10 n, c.isDigit = true :=
    fun _ => Nat.isDigit_of_mem_toDigits (by decide) (by decide)
  have unnamed (name : String) (letter : ∃ c ∈ name.toList, c.isDigit = false) :
      Nat.toDigits 10 n ≠ name.toList := by
    obtain ⟨c, hc, other⟩ := letter
    exact fun same => Bool.false_ne_true (other.symm.trans (digits c (same ▸ hc)))
  rw [wordValue?, if_neg (unnamed "null" ⟨'n', by simp, rfl⟩),
    if_neg (unnamed "true" ⟨'t', by simp, rfl⟩), if_neg (unnamed "false" ⟨'f', by simp, rfl⟩),
    number?_toDigits]

end Numerals

namespace Stage

theorem run_append (stage : Stage) (front back : List Token) :
    stage.run (front ++ back) = (stage.run front).bind (·.run back) :=
  List.foldlM_append

theorem run_cons (stage : Stage) (token : Token) (rest : List Token) :
    stage.run (token :: rest) = (stage.step token).bind (·.run rest) :=
  List.foldlM_cons

/-- A value may stand first in a list. -/
theorem run_firstItem (value : JsonValue) (around : List Frame) :
    (firstItem around).run (valueTokens value) =
      (expecting (.list [] :: around)).run (valueTokens value) := by
  fun_cases valueTokens value <;> rfl

mutual

theorem run_valueTokens : ∀ (value : JsonValue) (around : List Frame),
    (expecting around).run (valueTokens value) = some (.behind around (valueOf value))
  | .text value, around => by
    rw [valueTokens, valueOf]
    rfl
  | .number value, around => by
    have taken : (expecting around).step (.word (Nat.toDigits 10 value)) =
        some (.behind around (.number value 0)) := by
      rw [step, beginValue, wordValue?_toDigits]
      rfl
    rw [valueTokens, valueOf, run_cons, taken]
    rfl
  | .list [], around => by
    rw [valueTokens, valueOf, itemsOf]
    rfl
  | .list (item :: items), around => by
    rw [valueTokens, valueOf, itemsOf, run_cons]
    change (firstItem around).run _ = _
    rw [run_append, run_firstItem, run_valueTokens item, Option.bind_some, run_itemTokens items]
    rfl
  | .object [], around => by
    rw [valueTokens, valueOf, fieldsOf]
    rfl
  | .object ((name, value) :: fields), around => by
    rw [valueTokens, valueOf, fieldsOf]
    change (expecting (.object [] name :: around)).run _ = _
    rw [run_append, run_valueTokens value, Option.bind_some, run_fieldTokens fields]
    rfl

theorem run_itemTokens : ∀ (items : List JsonValue) (around : List Frame) (earlier : List Value)
    (value : Value), (behind (.list earlier :: around) value).run (itemTokens items ++ [.closeList]) =
      some (.behind around (.list (earlier.reverse ++ value :: itemsOf items)))
  | [], around, earlier, value => by
    rw [itemTokens, itemsOf, ← List.reverse_cons]
    rfl
  | item :: items, around, earlier, value => by
    rw [itemTokens, itemsOf, List.cons_append, List.append_assoc]
    change (expecting (.list (value :: earlier) :: around)).run _ = _
    rw [run_append, run_valueTokens item, Option.bind_some, run_itemTokens items,
      List.reverse_cons, List.append_assoc]
    rfl

theorem run_fieldTokens : ∀ (fields : List (String × JsonValue)) (around : List Frame)
    (earlier : List (String × Value)) (name : String) (value : Value),
    (behind (.object earlier name :: around) value).run (fieldTokens fields ++ [.closeObject]) =
      some (.behind around (.object (earlier.reverse ++ (name, value) :: fieldsOf fields)))
  | [], around, earlier, name, value => by
    rw [fieldTokens, fieldsOf, ← List.reverse_cons]
    rfl
  | (next, item) :: fields, around, earlier, name, value => by
    rw [fieldTokens, fieldsOf]
    simp only [List.cons_append, List.append_assoc]
    change (expecting (.object ((name, value) :: earlier) next :: around)).run _ = _
    rw [run_append, run_valueTokens item, Option.bind_some, run_fieldTokens fields,
      List.reverse_cons, List.append_assoc]
    rfl

end

end Stage

/-- Reading gives back what was written. -/
theorem read_pretty (value : JsonValue) (level : Nat) :
    read (value.pretty level) = some (valueOf value) := by
  rw [read, tokensOf?_pretty, Option.bind_some, Stage.run_valueTokens, Option.bind_some]
  rfl

-- What no value is written as is refused: a comma too many, a leading zero, a raw line break.
example : (read "[1,]").isNone ∧ (read "[01]").isNone ∧ (read "\"\n\"").isNone := by
  decide +kernel

end BehaviorDiff.Json
