import BehaviorDiff.Markup.Attribute
import BehaviorDiff.Markup.Piece

set_option autoImplicit false

/-!
The events of a document: elements that open, close, or do both at once. Everything else in a
document is left out. A closing tag must name the innermost open element. The events end where the
document ends or where reading fails.
-/

namespace BehaviorDiff.Markup

/-- The boundary of an element. -/
inductive Event where
  | opening (tag : Tag)
  | single (tag : Tag)
  | closing

/-- Where and why reading fails; the position is the number of bytes read. -/
structure ReadError where
  position : Nat
  fault : ReadFault
  deriving DecidableEq, Repr

/-- The text of the complaint. -/
def ReadError.message (error : ReadError) : String :=
  "at byte " ++ toString error.position ++ ": " ++ error.fault.message

/-- The events of a document up to its end, or up to a failure. -/
structure EventStream where
  events : List Event
  failure : Option ReadError

/-- A text without the white space at its end; a text of white space alone is kept. -/
def closingName (text : List Char) : List Char :=
  match (text.reverse.dropWhile isBlank).reverse with
  | [] => text
  | name => name

/-- Whether a text begins with a word, in capitals or not. -/
def beginsWith (word : String) (text : List Char) : Bool :=
  (text.take word.length).map Char.toUpper == word.toList

/-- What a piece says: the event, if it is one, and the elements that are open behind it. -/
def Piece.interpret (opened : List (List Char)) (piece : Piece) (start : Nat) :
    Except ReadError (Option Event × List (List Char)) :=
  let stop := start + piece.bytes
  let beforeContent := stop - byteLength piece.content
  match piece.kind with
  | .element =>
    if piece.content.getLast? = some '/' then
      .ok (some (.single (.ofContent piece.content.dropLast)), opened)
    else
      let name := (splitAtFirst isBlank piece.content).1
      .ok (some (.opening (.ofContent piece.content)), name :: opened)
  | .closing =>
    let text := piece.content.drop 1
    match opened with
    | [] => .error ⟨beforeContent, .mismatch "" (String.ofList text)⟩
    | innermost :: outer =>
      let name := closingName text
      if name = innermost then .ok (some .closing, outer)
      else .error ⟨beforeContent, .mismatch (String.ofList innermost) (String.ofList name)⟩
  | .instruction =>
    if byteLength piece.content > 2 && piece.content.getLast? = some '?' then .ok (none, opened)
    else .error ⟨beforeContent, .unexpectedEnd .instruction⟩
  | .comment =>
    if beginsWith "!--" piece.content then .ok (none, opened)
    else .error ⟨stop, .unexpectedEnd .comment⟩
  | .characterData =>
    if beginsWith "![CDATA[" piece.content then .ok (none, opened)
    else .error ⟨stop, .unexpectedEnd .characterData⟩
  | .doctype =>
    if beginsWith "!DOCTYPE" piece.content then
      if (piece.content.drop 8).all isBlank then .error ⟨stop, .emptyDoctype⟩
      else .ok (none, opened)
    else .error ⟨stop, .unexpectedEnd .doctype⟩

/-- The events of a text that starts at a position, inside the elements that are open there. -/
def readEvents (opened : List (List Char)) (position : Nat) (text : List Char) : EventStream :=
  match _ht : splitAtFirst (· = '<') text with
  | (_, []) => ⟨[], none⟩
  | (_, [_]) => ⟨[], none⟩
  | (skipped, _ :: markup) =>
    let start := position + byteLength skipped + 1
    match _hc : Piece.cut markup with
    | .error fault => ⟨[], some ⟨start, fault⟩⟩
    | .ok (piece, rest) =>
      match piece.interpret opened start with
      | .error error => ⟨[], some error⟩
      | .ok (event?, stillOpen) =>
        let later := readEvents stillOpen (start + piece.bytes) rest
        ⟨event?.toList ++ later.events, later.failure⟩
termination_by text.length
decreasing_by
  have tail := length_splitAtFirst (· = '<') text
  have behind := Piece.length_of_cut _hc
  simp only [_ht, List.length_cons] at tail
  omega

/-- The events of a document; a byte order mark at its start does not count. -/
def eventsOf (document : String) : EventStream :=
  match document.toList with
  | '\ufeff' :: text => readEvents [] 0 text
  | text => readEvents [] 0 text

end BehaviorDiff.Markup
