import BehaviorDiff.Diff.Content
import BehaviorDiff.Diff.Moves

set_option autoImplicit false

/-!
The comparison of two trees. Every node is classified by its path: present in both trees, only in
the old one or only in the new one; then removals and additions of one node are joined into moves.
The changes follow the pre-order of the old tree, and after them come the nodes that only the new
tree has, in its pre-order.
-/

namespace BehaviorDiff

/-- The changes of two trees path by path, without moves. -/
def positionalChanges (options : CompareOptions) (old new : PathIndex) : List Change :=
  (old.nodes.map fun node =>
      match new.get? node.path with
      | some other => compareContent options node other
      | none => .removed node) ++
    (new.nodes.filter fun node => !old.contains node.path).map .added

/-- Compares two trees; fails if two nodes of one tree share a path, the old tree first. -/
def compareTrees (options : CompareOptions) (old new : Node) :
    Except DuplicatePath (List Change) := do
  let oldIndex ← PathIndex.ofTree .old old
  let newIndex ← PathIndex.ofTree .new new
  return Moves.resolve oldIndex newIndex (positionalChanges options oldIndex newIndex)

end BehaviorDiff
