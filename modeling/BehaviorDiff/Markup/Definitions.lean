import BehaviorDiff.Markup.Event
import BehaviorDiff.Tree.Document

set_option autoImplicit false

/-!
The trees that a document defines. Every element of one name defines a tree, wherever it stands; it
is the root of its tree, and it is left out of a tree around it. Elements outside of every tree are
skipped without a look at their attributes. The trees come in the order of their opening tags,
whatever the order in which they end.
-/

namespace BehaviorDiff.Markup

/-- The name of the elements that define trees. -/
def treeTag : String := "BehaviorTree"

/-- Why a document cannot be read. -/
inductive DocumentError where
  | unreadable (error : ReadError)
  | badTag (error : AttributeError)
  | unclosed (count : Nat)
  deriving DecidableEq, Repr

/-- The text of the complaint. -/
def DocumentError.message : DocumentError → String
  | unreadable error => error.message
  | badTag error => error.message
  | unclosed count =>
    "unexpected end of document: " ++ toString count ++ " element(s) left open"

/-- An element that is open: outside of every tree, or inside one with its rank among the opened. -/
inductive Frame where
  | outside
  | inside (draft : Draft) (opened : Nat)

/-- Whether an open element defines a tree. -/
def Frame.isTree : Frame → Bool
  | outside => false
  | inside draft _ => draft.tag = treeTag

/-- A tree whose element has ended. -/
structure Finished where
  opened : Nat
  name : String
  root : Node

/-- What is known in the middle of a document; the innermost open element comes first. -/
structure Assembly where
  stack : List Frame
  finished : List Finished
  openTrees : Nat
  opened : Nat

namespace Assembly

/-- Nothing has been read. -/
def start : Assembly := ⟨[], [], 0, 0⟩

/-- The draft that an opening tag begins. -/
def draftOf (name : String) (attributes : List (String × String)) : Draft :=
  attributes.foldl (fun draft entry => draft.setAttribute entry.1 entry.2) (.new name)

/-- The name of the tree that a draft defines. -/
def treeName (draft : Draft) : String := draft.attributes.id?.getD defaultTreeName

/-- The open element of a tag, and the number of elements opened inside trees so far. -/
def frame (assembly : Assembly) (tag : Tag) : Except AttributeError (Frame × Nat) :=
  if assembly.openTrees = 0 ∧ tag.name ≠ treeTag then .ok (.outside, assembly.opened)
  else
    tag.attributes.map fun attributes =>
      (.inside (draftOf tag.name attributes) (assembly.opened + 1), assembly.opened + 1)

/-- Puts a child under the innermost open element, if that one is inside a tree. -/
def attach (child : Draft) : List Frame → List Frame
  | .inside parent opened :: outer => .inside (parent.pushChild child) opened :: outer
  | stack => stack

/-- Ends an element that is no longer on the stack. -/
def close (assembly : Assembly) : Frame → Assembly
  | .outside => assembly
  | .inside draft opened =>
    if draft.tag = treeTag then
      { assembly with
        finished := ⟨opened, treeName draft, draft.build⟩ :: assembly.finished }
    else { assembly with stack := attach draft assembly.stack }

/-- Takes one event in. -/
def step (assembly : Assembly) : Event → Except AttributeError Assembly
  | .opening tag => do
    let (frame, opened) ← assembly.frame tag
    return { assembly with
      stack := frame :: assembly.stack, opened
      openTrees := if frame.isTree then assembly.openTrees + 1 else assembly.openTrees }
  | .single tag => do
    let (frame, opened) ← assembly.frame tag
    return { assembly with opened }.close frame
  | .closing =>
    match assembly.stack with
    | [] => return assembly
    | frame :: outer =>
      return { assembly with
        stack := outer
        openTrees := if frame.isTree then assembly.openTrees - 1 else assembly.openTrees }.close frame

/-- The finished trees with their names, in the order of their opening tags. -/
def definitions (assembly : Assembly) : List (String × Node) :=
  (assembly.finished.mergeSort fun a b => a.opened ≤ b.opened).map fun tree =>
    (tree.name, tree.root)

end Assembly

/-- The trees that a stream of events defines, with their names. A bad tag counts before a failure
behind it, and a failure before elements that are left open. -/
def EventStream.definitions (stream : EventStream) :
    Except DocumentError (List (String × Node)) := do
  let assembly ← (stream.events.foldlM Assembly.step .start).mapError .badTag
  match stream.failure with
  | some error => throw (.unreadable error)
  | none =>
    if assembly.stack.isEmpty then return assembly.definitions
    else throw (.unclosed assembly.stack.length)

/-- The trees that the text of a document defines, with their names, repeated ones included. -/
def definitionsOf (text : String) : Except DocumentError (List (String × Node)) :=
  (eventsOf text).definitions

/-- The document that a text describes; the last of several trees of one name counts. -/
def parseDocument (text : String) : Except DocumentError Document :=
  (definitionsOf text).map Document.ofList

end BehaviorDiff.Markup
