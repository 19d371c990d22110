import BehaviorDiff.Diff.Change

set_option autoImplicit false

/-!
The comparison of two nodes that stand at one path. Attribute names that the options ignore are left
out; a missing attribute counts as an empty one.
-/

namespace BehaviorDiff

/-- Which attributes a comparison leaves out. -/
structure CompareOptions where
  isIgnored : String → Bool

/-- Every attribute counts. -/
def CompareOptions.all : CompareOptions := ⟨fun _ => false⟩

/-- The value of an attribute, empty if the node does not have it. -/
def Node.attributeOrEmpty (node : Node) (name : String) : String := (node.attribute? name).getD ""

/-- All attribute names of two nodes, those of the old node first. -/
def attributeNames (old new : Node) : List String :=
  old.attributes.keys ++ new.attributes.keys.filter fun name => !old.attributes.contains name

/-- The difference of one attribute, if it counts and there is one. -/
def attributeDelta? (options : CompareOptions) (old new : Node) (name : String) :
    Option (String × Delta String) :=
  let before := old.attributeOrEmpty name
  let after := new.attributeOrEmpty name
  if options.isIgnored name || before == after then none else some (name, ⟨before, after⟩)

/-- The attributes in which two nodes differ, those of the old node first. -/
def attributeDeltas (options : CompareOptions) (old new : Node) : AttributeDeltas :=
  .ofList ((attributeNames old new).filterMap (attributeDelta? options old new))

/-- The difference of two values, if there is one. -/
def delta? {α : Type} [DecidableEq α] (old new : α) : Option (Delta α) :=
  if old = new then none else some ⟨old, new⟩

/-- Everything in which two nodes differ. -/
def contentDelta (options : CompareOptions) (old new : Node) : ContentDelta where
  tag := delta? old.tag new.tag
  kind := delta? old.kind new.kind
  attributes := attributeDeltas options old new

/-- The change at a path that both trees have. -/
def compareContent (options : CompareOptions) (old new : Node) : Change :=
  let delta := contentDelta options old new
  if delta.isEmpty then .unchanged old new else .modified old new delta

end BehaviorDiff
