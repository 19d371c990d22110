import BehaviorDiff.Yaml.Event
import BehaviorDiff.Yaml.Resolution
import BehaviorDiff.Text.Quoted

set_option autoImplicit false

/-!
The first document of a text as a row of items, and how values are taken from it. Values are taken
in the order of the text, so a value of the wrong kind counts before a fault that lies behind it.
-/

namespace BehaviorDiff.Yaml

/-- An item of a document. An alias has the number of the anchor that it refers to. -/
inductive Item where
  | void
  | alias (anchor : Nat)
  | scalar (tag? : Option Octets) (style : ScalarStyle) (text : String)
  | sequenceStart (tag? : Option Octets)
  | sequenceEnd
  | mappingStart (tag? : Option Octets)
  | mappingEnd
  deriving DecidableEq, Repr

/-- The items of the first document of a text. `targets` are the positions of the anchored items by
the numbers of their anchors, and `fault?` is the fault behind the last item. -/
structure Document where
  items : List (Item × Place)
  targets : List (Nat × Nat)
  fault? : Option Fault
  isLast : Bool
  deriving Repr

namespace Document

/-- The anchors of the items so far: the number of each name, and the item of each number. A name
that is used again gets a new number. -/
structure Anchors where
  names : List (String × Nat)
  targets : List (Nat × Nat)

/-- Notes that an item has an anchor. -/
def Anchors.note (anchors : Anchors) (position : Nat) : Option String → Anchors
  | none => anchors
  | some name =>
    let number := anchors.names.length
    ⟨(name, number) :: anchors.names.filter (·.1 ≠ name), (number, position) :: anchors.targets⟩

/-- A document with an item in front. -/
def after (item : Item) (place : Place) (document : Document) : Document :=
  { document with items := (item, place) :: document.items }

/-- The items up to the end of the document. -/
def ofEvents (fault? : Option Fault) (anchors : Anchors) (position : Nat) :
    List (Event × Place) → Document
  | [] => ⟨[], anchors.targets, fault?, true⟩
  | (event, place) :: rest =>
    let go (anchor? : Option String) (item : Item) : Document :=
      (ofEvents fault? (anchors.note position anchor?) (position + 1) rest).after item place
    match event with
    | .streamEnd => ⟨[(.void, place)], anchors.targets, none, true⟩
    | .documentStart => ofEvents fault? anchors position rest
    | .documentEnd =>
      let isLast := match rest with
        | (.streamEnd, _) :: _ => true
        | _ => false
      ⟨[], anchors.targets, none, isLast⟩
    | .alias name =>
      match anchors.names.lookup name with
      | some number => go none (.alias number)
      | none => ⟨[], anchors.targets, some (.unknownAnchor place), true⟩
    | .scalar found style text => go found.anchor? (.scalar found.tag? style text)
    | .sequenceStart found => go found.anchor? (.sequenceStart found.tag?)
    | .sequenceEnd => go none .sequenceEnd
    | .mappingStart found => go found.anchor? (.mappingStart found.tag?)
    | .mappingEnd => go none .mappingEnd

/-- The first document of a text. -/
def ofText (text : String) : Document :=
  let stream := EventStream.ofText text
  ofEvents stream.fault? ⟨[], []⟩ 0 stream.events

end Document

/-- What stands where something else is expected. -/
inductive Unexpected where
  | boolean (value : Bool)
  | integer (value : Int)
  | real (text : String)
  | text (text : String)
  | unit
  | sequence
  | map
  deriving DecidableEq, Repr

/-- The text for what stands there. A whole number that 64 bits cannot hold has its size behind it.
-/
def Unexpected.description : Unexpected → String
  | boolean value => "boolean \x60" ++ (if value then "true" else "false") ++ "\x60"
  | integer value =>
    "integer \x60" ++ toString value ++ "\x60" ++
      if value < -9223372036854775808 then " as i128"
      else if 18446744073709551616 ≤ value then " as u128"
      else ""
  | real shown => "floating point \x60" ++ shown ++ "\x60"
  | .text shown => "string " ++ Quoted.quote shown
  | unit => "unit value"
  | sequence => "sequence"
  | map => "map"

/-- Why a value does not fit. -/
inductive Mismatch where
  | wrongType (found : Unexpected) (expected : String)
  | wrongValue (found : Unexpected) (expected : String)
  | unknownChoice (found : String) (choices : List String)
  | duplicateField (name : String)
  deriving DecidableEq, Repr

/-- The text for why a value does not fit. -/
def Mismatch.message : Mismatch → String
  | wrongType found expected => "invalid type: " ++ found.description ++ ", expected " ++ expected
  | wrongValue found expected => "invalid value: " ++ found.description ++ ", expected " ++ expected
  | unknownChoice found choices =>
    "unknown variant \x60" ++ found ++ "\x60, expected " ++
      " or ".intercalate (choices.map fun choice => "\x60" ++ choice ++ "\x60")
  | duplicateField name => "duplicate field \x60" ++ name ++ "\x60"

/-- Where a value is in a document: the whole of it, a field, or an entry of a field. -/
inductive FieldPath where
  | root
  | field (name? : Option String)
  | entry (name? : Option String) (index : Nat)
  deriving DecidableEq, Repr

/-- The text of a path; a field whose name is not written in its place has none. -/
def FieldPath.text? : FieldPath → Option String
  | root => none
  | field name? => some (name?.getD "?")
  | entry name? index => some (name?.getD "?" ++ "[" ++ toString index ++ "]")

/-- Why no value could be taken from a document. -/
inductive DecodeError where
  | fault (fault : Fault)
  | endOfText
  | severalDocuments
  | mismatch (mismatch : Mismatch) (location? : Option (FieldPath × Place))
  deriving DecidableEq, Repr

/-- The text of an error. -/
def DecodeError.message : DecodeError → String
  | .fault found => found.message
  | endOfText => "EOF while parsing a value"
  | severalDocuments =>
    "deserializing from YAML containing more than one document is not supported"
  | mismatch found none => found.message
  | mismatch found (some (path, place)) =>
    (path.text?.map (· ++ ": ")).getD "" ++ found.message ++ atPlace place

/-- Says where a value is that does not fit, if that is not known yet. -/
def DecodeError.locate (path : FieldPath) (place : Place) : DecodeError → DecodeError
  | mismatch found none => mismatch found (some (path, place))
  | error => error

/-- A step that takes items from a document. -/
abbrev ItemReader := ReaderT Document (StateT (List (Item × Place)) (Except DecodeError))

namespace ItemReader

/-- The next item. -/
def peek : ItemReader (Item × Place) := do
  match ← get with
  | found :: _ => return found
  | [] =>
    match (← read).fault? with
    | some fault => throw (.fault fault)
    | none => throw .endOfText

/-- Takes the next item. -/
def next : ItemReader (Item × Place) := do
  let found ← peek
  modify (List.drop 1)
  return found

/-- Takes a value from here, or from where an alias refers to. -/
def followAlias {α : Type} (value : ItemReader α) : ItemReader α := do
  match ← peek with
  | (.alias anchor, _) => do
    let _ ← next
    let document ← read
    let behind ← get
    set (document.items.drop ((document.targets.lookup anchor).getD document.items.length))
    let found ← value
    set behind
    return found
  | _ => value

/-- Skips a value, or what is left of it inside `depth` collections. -/
def skipItems (depth : Nat) : List (Item × Place) → Option (List (Item × Place))
  | [] => none
  | (item, _) :: rest =>
    let left := match item with
      | .sequenceStart _ | .mappingStart _ => depth + 1
      | .sequenceEnd | .mappingEnd => depth - 1
      | _ => depth
    if left = 0 then some rest else skipItems left rest

/-- Skips a value. -/
def skipValue : ItemReader Unit := do
  match skipItems 0 (← get) with
  | some rest => set rest
  | none => do
    set ([] : List (Item × Place))
    let _ ← peek

/-- The tags of the values that scalars stand for. -/
def coreTag (name : String) : Octets := octets ("tag:yaml.org,2002:" ++ name).toList

/-- Whether a tag is one of the document's own. -/
def isLocal (tag : Octets) : Bool := tag.head? = some '!'.toUInt8

/-- What a scalar stands for where something else is expected. -/
def mismatchOfText (expected : String) (text : String) : Mismatch :=
  match resolve text.toList with
  | .null => .wrongType .unit expected
  | .boolean value => .wrongType (.boolean value) expected
  | .integer value => .wrongType (.integer value) expected
  | .real shown => .wrongType (.real shown) expected
  | .text => .wrongType (.text text) expected

/-- How a scalar differs from what is expected. A tag says what the scalar stands for; without one a
plain scalar stands for what it looks like. -/
def mismatchOfScalar (expected : String) (tag? : Option Octets) (style : ScalarStyle)
    (text : String) : Mismatch :=
  let chars := text.toList
  let asText : Mismatch := .wrongType (.text text) expected
  match tag? with
  | some tag =>
    if tag = coreTag "bool" then
      match boolean? chars with
      | some value => .wrongType (.boolean value) expected
      | none => .wrongValue (.text text) "a boolean"
    else if tag = coreTag "int" then
      match integer? chars with
      | some value => .wrongType (.integer value) expected
      | none => .wrongValue (.text text) "an integer"
    else if tag = coreTag "float" then
      match real? chars with
      | some shown => .wrongType (.real shown) expected
      | none => .wrongValue (.text text) "a float"
    else if tag = coreTag "null" then
      if isNull chars then .wrongType .unit expected else .wrongValue (.text text) "null"
    else if isLocal tag && style = .plain then mismatchOfText expected text
    else asText
  | none => if style = .plain then mismatchOfText expected text else asText

/-- The error that an item is not what is expected. -/
def unexpected {α : Type} (expected : String) (path : FieldPath) (found : Item × Place) :
    ItemReader α :=
  let fail (mismatch : Mismatch) : ItemReader α := throw (.mismatch mismatch (some (path, found.2)))
  match found.1 with
  | .scalar tag? style text => fail (mismatchOfScalar expected tag? style text)
  | .sequenceStart _ => fail (.wrongType .sequence expected)
  | .mappingStart _ => fail (.wrongType .map expected)
  | _ => throw .endOfText

/-- Takes a text; any scalar is one. -/
def text (expected : String) (path : FieldPath) : ItemReader String := followAlias do
  let found ← next
  match found.1 with
  | .scalar _ _ text => return text
  | _ => unexpected expected path found

/-- Takes a truth value. -/
def boolean (path : FieldPath) : ItemReader Bool := followAlias do
  let found ← next
  match found.1 with
  | .scalar tag? style text =>
    let mayBe := style = .plain || (style = .literal && tag? = some (coreTag "bool"))
    match (if mayBe then boolean? text.toList else none) with
    | some value => return value
    | none => unexpected "a boolean" path found
  | _ => unexpected "a boolean" path found

/-- Whether an item may stand for an empty collection. -/
def isNothing : Item → Bool
  | .void => true
  | .scalar _ style text => style = .plain && text.isEmpty
  | _ => false

/-- Takes the texts of a sequence up to its end. Every round takes at least one item. -/
def entries (name? : Option String) (index : Nat) : Nat → ItemReader (List String)
  | 0 => return []
  | rounds + 1 => do
    match (← peek).1 with
    | .sequenceEnd => do
      let _ ← next
      return []
    | _ => do
      let first ← text "a string" (.entry name? index)
      return first :: (← entries name? (index + 1) rounds)

/-- Takes a sequence of texts. -/
def texts (name? : Option String) : ItemReader (List String) := followAlias do
  let found ← next
  match found.1 with
  | .sequenceStart _ => entries name? 0 ((← get).length + 1)
  | item => if isNothing item then return [] else unexpected "a sequence" (.field name?) found

/-- The choice that a local tag makes, by what is written behind the exclamation mark, or by the
mark if nothing is. -/
def choiceOfTag? (tag? : Option Octets) : Option String := do
  let tag ← tag?
  if isLocal tag then textOf? (if tag.length = 1 then tag else tag.drop 1) else none

/-- One of several choices by its name. -/
def chosen {α : Type} (choices : List (String × α)) (name : String)
    (location? : Option (FieldPath × Place)) : ItemReader α :=
  match choices.lookup name with
  | some value => return value
  | none => throw (.mismatch (.unknownChoice name (choices.map (·.1))) location?)

/-- Takes nothing, where a tag has made a choice. -/
def nothing (path : FieldPath) : ItemReader Unit := do
  let found ← next
  match found.1 with
  | .scalar _ style text =>
    if style = .plain && (text.isEmpty || isNull text.toList) then return ()
    else throw (.mismatch (.wrongValue (.text text) "null") (some (path, found.2)))
  | _ => unexpected "unit" path found

/-- Takes a choice: a scalar that names it, or nothing behind a local tag that does. -/
def choice {α : Type} (choices : List (String × α)) (path : FieldPath) : ItemReader α :=
  followAlias do
    let found ← peek
    let expected := "a YAML tag starting with '!'"
    match found.1 with
    | .scalar tag? _ text =>
      match choiceOfTag? tag? with
      | some name => do
        let value ← chosen choices name none
        nothing path
        return value
      | none => do
        let value ← chosen choices text (some (path, found.2))
        let _ ← next
        return value
    | .sequenceStart tag? =>
      match choiceOfTag? tag? with
      | some name => do
        let value ← chosen choices name none
        nothing path
        return value
      | none => unexpected expected path found
    | .mappingStart tag? =>
      match choiceOfTag? tag? with
      | some name => do
        let value ← chosen choices name none
        nothing path
        return value
      | none => unexpected expected path found
    | _ => unexpected expected path found

/-- Takes the fields of a mapping up to its end, one after the other: `field` takes the value of the
one with a name, and `name?` is that name if it is written in its place. -/
def fields {α : Type} (field : α → String → Option String → ItemReader α) (value : α) :
    Nat → ItemReader α
  | 0 => return value
  | rounds + 1 => do
    match (← peek).1 with
    | .mappingEnd => do
      let _ ← next
      return value
    | key => do
      let name ← text "field identifier" .root
      let written? := match key with
        | .scalar _ _ written => some written
        | _ => none
      fields field (← field value name written?) rounds

/-- Takes a mapping with fields; nothing has none of them. -/
def record {α : Type} (expected : String) (field : α → String → Option String → ItemReader α)
    (value : α) : ItemReader α := followAlias do
  let found ← next
  match found.1 with
  | .mappingStart _ => do
    let rounds := (← get).length + 1
    tryCatch (fields field value rounds) fun error => throw (error.locate .root found.2)
  | item => if isNothing item then return value else unexpected expected .root found

end ItemReader

/-- The value of a text that holds one document. -/
def decode {α : Type} (value : ItemReader α) (text : String) : Except DecodeError α := do
  let document := Document.ofText text
  let (found, _) ← (value.run document).run document.items
  match document.fault? with
  | some fault => throw (.fault fault)
  | none => if document.isLast then return found else throw .severalDocuments

end BehaviorDiff.Yaml
