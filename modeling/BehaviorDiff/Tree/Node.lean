import BehaviorDiff.OrderedMap
import BehaviorDiff.Tree.Kind

set_option autoImplicit false

/-!
Behavior trees before and after they are given addresses. A draft is what a reader assembles: tags,
attributes and children. Building a draft adds to every node its kind, its distance from the root
and its canonical path; nothing else changes. The path of a child names it by its identity if it has
one, else by its rank among the earlier siblings of its tag.
-/

namespace BehaviorDiff

/-- Attribute values by name, in source order. -/
abbrev Attributes := OrderedMap String String

/-- The attribute that carries a node's identity. -/
def idAttribute : String := "ID"

/-- The identity in a set of attributes: a value of the identity attribute that is not empty. -/
def Attributes.id? (attributes : Attributes) : Option String :=
  (attributes.get? idAttribute).filter (· ≠ "")

/-- A node without a position. -/
structure Draft where
  tag : String
  attributes : Attributes
  children : List Draft

/-- A node with its kind, its depth below the root and its canonical path. -/
structure Node where
  tag : String
  kind : NodeKind
  attributes : Attributes
  children : List Node
  depth : Nat
  path : String

namespace Draft

instance : Inhabited Draft := ⟨⟨"", .empty, []⟩⟩

/-- A draft with neither attributes nor children. -/
def new (tag : String) : Draft := ⟨tag, .empty, []⟩

/-- Adds an attribute, or replaces the value of one that is there. -/
def setAttribute (draft : Draft) (name value : String) : Draft :=
  { draft with attributes := draft.attributes.insert name value }

/-- Appends a child. -/
def pushChild (draft child : Draft) : Draft :=
  { draft with children := draft.children ++ [child] }

/-- The value of an attribute. -/
def attribute? (draft : Draft) (name : String) : Option String := draft.attributes.get? name

mutual

/-- Equality up to the order of the attributes; children count in order. -/
def same : Draft → Draft → Bool
  | ⟨tag, attributes, children⟩, ⟨tag', attributes', children'⟩ =>
    tag == tag' && attributes.sameEntries attributes' && sameAll children children'

/-- `same`, child by child. -/
def sameAll : List Draft → List Draft → Bool
  | [], [] => true
  | child :: rest, child' :: rest' => same child child' && sameAll rest rest'
  | _, _ => false

end

/-- The last step of a path: the tag with the identity, or else with the sibling rank. -/
def pathStep (tag : String) (attributes : Attributes) (rank : Nat) : String :=
  match attributes.id? with
  | some id => tag ++ "[@ID='" ++ id ++ "']"
  | none => tag ++ "[" ++ toString rank ++ "]"

mutual

/-- The node of a draft that stands at a path and a depth. -/
def buildAt (path : String) (depth : Nat) : Draft → Node
  | ⟨tag, attributes, children⟩ =>
    { tag, kind := .classify tag, attributes,
      children := buildChildren path (depth + 1) [] children, depth, path }

/-- The nodes of a row of siblings, given the tags of the siblings before them. -/
def buildChildren (parent : String) (depth : Nat) (earlier : List String) :
    List Draft → List Node
  | [] => []
  | child :: rest =>
    buildAt (parent ++ "/" ++ pathStep child.tag child.attributes (earlier.count child.tag))
      depth child :: buildChildren parent depth (child.tag :: earlier) rest

end

/-- The tree of a draft: the path of the root is its tag. -/
def build (draft : Draft) : Node := draft.buildAt draft.tag 0

end Draft

namespace Node

instance : Inhabited Node := ⟨(default : Draft).build⟩

/-- The value of an attribute. -/
def attribute? (node : Node) (name : String) : Option String := node.attributes.get? name

mutual

/-- What is left of a node without its position. -/
def draft : Node → Draft
  | ⟨tag, _, attributes, children, _, _⟩ => ⟨tag, attributes, drafts children⟩

/-- `draft`, child by child. -/
def drafts : List Node → List Draft
  | [] => []
  | child :: rest => draft child :: drafts rest

end

mutual

/-- The number of nodes of a tree. -/
def size : Node → Nat
  | ⟨_, _, _, children, _, _⟩ => 1 + sizeAll children

/-- The number of nodes of a row of trees. -/
def sizeAll : List Node → Nat
  | [] => 0
  | child :: rest => size child + sizeAll rest

end

end Node

end BehaviorDiff
