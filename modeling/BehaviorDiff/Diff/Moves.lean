import BehaviorDiff.Diff.Change
import BehaviorDiff.Diff.PathIndex

set_option autoImplicit false

/-!
Moves. A node that vanished from one path and turned up at another is recognised by its signature,
provided that no other node of either tree has that signature. A move takes the place of the removal
it explains, and the addition it explains is dropped.
-/

namespace BehaviorDiff

/-- The attributes that identify a node wherever it stands. -/
def identityAttributes : List String := ["ID", "name", "sub_tree_name"]

/-- The identifying attributes of a node with their values, in a fixed order. -/
def Node.identity (node : Node) : List (String × String) :=
  identityAttributes.filterMap fun name => (node.attribute? name).map fun value => (name, value)

/-- A text for a node that does not depend on its position. -/
def Node.signature (node : Node) : String :=
  node.tag ++ "(" ++ node.kind.label ++ "):" ++
    ":".intercalate (node.identity.map fun entry => entry.1 ++ "=" ++ entry.2)

/-- The nodes that share a signature. -/
structure SignatureGroup where
  signature : String
  members : List Node

/-- A node that left one path for another. -/
structure Move where
  old : Node
  new : Node

namespace Moves

/-- The nodes grouped by signature, both in the order of their first occurrence. -/
def groups (nodes : List Node) : List SignatureGroup :=
  let grouped := nodes.foldl
    (fun (m : OrderedMap String (List Node)) node =>
      m.insert node.signature ((m.get? node.signature).getD [] ++ [node])) .empty
  grouped.entries.map fun entry => ⟨entry.1, entry.2⟩

/-- The members of the group of a signature. -/
def membersOf (groups : List SignatureGroup) (signature : String) : List Node :=
  ((groups.find? fun group => group.signature == signature).map SignatureGroup.members).getD []

/-- The paths that the changes report as removed. -/
def removedPaths (changes : List Change) : List String :=
  changes.filterMap fun
    | .removed old => some old.path
    | _ => none

/-- The paths that the changes report as added. -/
def addedPaths (changes : List Change) : List String :=
  changes.filterMap fun
    | .added new => some new.path
    | _ => none

/-- The move of one group: its only node left an old path for a new one. -/
def ofGroup? (removed added : List String) (newGroups : List SignatureGroup)
    (group : SignatureGroup) : Option Move :=
  match group.members, membersOf newGroups group.signature with
  | [old], [new] =>
    if old.path ≠ new.path ∧ old.path ∈ removed ∧ new.path ∈ added then some ⟨old, new⟩ else none
  | _, _ => none

/-- The changes with every pair that a move explains joined into one. -/
def apply (moves : List Move) (changes : List Change) : List Change :=
  changes.filterMap fun
    | .removed old =>
      match moves.find? fun move => move.old.path == old.path with
      | some move => some (.moved old move.new)
      | none => some (.removed old)
    | .added new =>
      if moves.any fun move => move.new.path == new.path then none else some (.added new)
    | change => some change

/-- Pairs removals with additions, going through the groups of the old tree in a given order. -/
def resolveIn (oldGroups newGroups : List SignatureGroup) (changes : List Change) : List Change :=
  apply (oldGroups.filterMap (ofGroup? (removedPaths changes) (addedPaths changes) newGroups)) changes

/-- Pairs removals with additions of the same node. -/
def resolve (old new : PathIndex) (changes : List Change) : List Change :=
  resolveIn (groups old.nodes) (groups new.nodes) changes

end Moves

end BehaviorDiff
