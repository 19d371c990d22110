import BehaviorDiff.Yaml.Characters
import BehaviorDiff.Yaml.Fault

set_option autoImplicit false

/-!
A text that has been read up to a place. A carriage return in front of a line feed ends no line of
its own; it only counts as a character.
-/

namespace BehaviorDiff.Yaml

/-- Whether a character is the first half of a line end of two characters. -/
def isHalfBreak (c : Char) (rest : List Char) : Bool := c = '\r' && rest.head? = some '\n'

/-- The place behind the first half of a line end. -/
def Place.halfway (place : Place) : Place := { place with index := place.index + 1 }

/-- What is left of a text, and where that begins. -/
structure Cursor where
  place : Place
  rest : List Char
  deriving Repr

namespace Cursor

/-- Moves on within a line. -/
def skip (cursor : Cursor) (count : Nat := 1) : Cursor :=
  ⟨(cursor.rest.take count).foldl Place.next cursor.place, cursor.rest.drop count⟩

/-- The characters of a class that follow. -/
def word (cursor : Cursor) (accept : Char → Bool) : List Char := cursor.rest.takeWhile accept

/-- Moves on over characters of a class, none of which ends a line. -/
def skipWhile (cursor : Cursor) (accept : Char → Bool) : Cursor :=
  cursor.skip (cursor.word accept).length

/-- Moves on over blanks and a comment to the end of a line. -/
def skipComment (cursor : Cursor) : Cursor :=
  let behind := cursor.skipWhile isBlank
  if behind.rest.head? = some '#' then behind.skipWhile fun c => !isBreak c else behind

/-- Moves on over the end of a line, if it is here. -/
def skipBreak (cursor : Cursor) : Cursor :=
  match cursor.rest with
  | [] => cursor
  | c :: rest =>
    if isHalfBreak c rest then ⟨cursor.place.halfway.nextLine '\n', rest.drop 1⟩
    else if isBreak c then ⟨cursor.place.nextLine c, rest⟩
    else cursor

/-- A fault here, found while something was read that began earlier. -/
def fault {α : Type} (cursor : Cursor) (problem : Problem) (activity : Activity) (began : Place) :
    Except Fault α :=
  .error (.malformed problem cursor.place (some (activity, began)))

end Cursor

end BehaviorDiff.Yaml
