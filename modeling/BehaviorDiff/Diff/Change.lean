import BehaviorDiff.Tree.Node

set_option autoImplicit false

/-!
What a comparison of two trees says about one node position. A change carries the nodes it is about:
an added node has no old side, a removed one no new side, and every other change has both.
-/

namespace BehaviorDiff

/-- The classes of changes. -/
inductive ChangeKind where
  | added
  | removed
  | modified
  | unchanged
  | moved
  deriving DecidableEq, Repr

namespace ChangeKind

/-- The lower-case word for a class. -/
def label : ChangeKind → String
  | added => "added"
  | removed => "removed"
  | modified => "modified"
  | unchanged => "unchanged"
  | moved => "moved"

/-- The class that a lower-case word names. -/
def ofLabel? : String → Option ChangeKind
  | "added" => some added
  | "removed" => some removed
  | "modified" => some modified
  | "unchanged" => some unchanged
  | "moved" => some moved
  | _ => none

theorem ofLabel?_label (kind : ChangeKind) : ofLabel? kind.label = some kind := by
  cases kind <;> rfl

end ChangeKind

/-- A value before and after. -/
structure Delta (α : Type) where
  old : α
  new : α
  deriving DecidableEq, Repr

/-- The two values of an attribute by its name; a side without the attribute has the empty text. -/
abbrev AttributeDeltas := OrderedMap String (Delta String)

/-- Everything in which two nodes at one path differ. -/
structure ContentDelta where
  tag : Option (Delta String)
  kind : Option (Delta NodeKind)
  attributes : AttributeDeltas

/-- Whether the nodes agree after all. -/
def ContentDelta.isEmpty (delta : ContentDelta) : Bool :=
  delta.tag.isNone && delta.kind.isNone && delta.attributes.isEmpty

/-- What happened at one node position. -/
inductive Change where
  | added (new : Node)
  | removed (old : Node)
  | modified (old new : Node) (delta : ContentDelta)
  | unchanged (old new : Node)
  | moved (old new : Node)

namespace Change

/-- The class of a change. -/
def kind : Change → ChangeKind
  | added _ => .added
  | removed _ => .removed
  | modified _ _ _ => .modified
  | unchanged _ _ => .unchanged
  | moved _ _ => .moved

/-- The node on the old side. -/
def old? : Change → Option Node
  | added _ => none
  | removed old | modified old _ _ | unchanged old _ | moved old _ => some old

/-- The node on the new side. -/
def new? : Change → Option Node
  | removed _ => none
  | added new | modified _ new _ | unchanged _ new | moved _ new => some new

/-- The node that describes the change best: the new one, or the old one if there is no new one. -/
def subject : Change → Node
  | removed old => old
  | added new | modified _ new _ | unchanged _ new | moved _ new => new

/-- The differences of a modified node; no other change has any. -/
def delta : Change → ContentDelta
  | modified _ _ delta => delta
  | _ => ⟨none, none, .empty⟩

/-- Whether the change reports a difference at all. -/
def isChange (change : Change) : Bool := change.kind ≠ .unchanged

end Change

end BehaviorDiff
