set_option autoImplicit false

/-!
Characters and lengths of markup. Positions in a document count bytes of its UTF-8 form.
-/

namespace BehaviorDiff.Markup

/-- The four characters that count as white space in markup. -/
def isBlank (c : Char) : Bool := c = ' ' || c = '\t' || c = '\n' || c = '\r'

/-- The number of bytes of a text. -/
def byteLength : List Char → Nat
  | [] => 0
  | c :: rest => c.utf8Size + byteLength rest

/-- The first byte of a character, read as a character of its own. -/
def firstByte (c : Char) : Char :=
  Char.ofNat ((c.toString.toUTF8.toList.head?.map UInt8.toNat).getD 0)

/-- The part of a text before the first character of a class, and the rest from there on. -/
def splitAtFirst (stop : Char → Bool) (text : List Char) : List Char × List Char :=
  (text.takeWhile fun c => !stop c, text.dropWhile fun c => !stop c)

theorem length_splitAtFirst (stop : Char → Bool) (text : List Char) :
    (splitAtFirst stop text).2.length ≤ text.length :=
  (List.dropWhile_suffix _).length_le

end BehaviorDiff.Markup
