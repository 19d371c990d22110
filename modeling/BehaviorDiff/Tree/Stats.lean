import BehaviorDiff.Tree.Document
import BehaviorDiff.Tree.Walk

set_option autoImplicit false

/-!
Counts of the nodes of a tree by kind, and the sums of these counts over a document.
-/

namespace BehaviorDiff

/-- Node counts of one tree, or of several taken together. -/
structure TreeStats where
  total : Nat
  control : Nat
  action : Nat
  condition : Nat
  decorator : Nat
  subtree : Nat
  maxDepth : Nat
  deriving DecidableEq, Repr

namespace TreeStats

/-- The counts of no node. -/
def zero : TreeStats := ⟨0, 0, 0, 0, 0, 0, 0⟩

/-- The count of one kind. -/
def count (stats : TreeStats) : NodeKind → Nat
  | .control => stats.control
  | .action => stats.action
  | .condition => stats.condition
  | .decorator => stats.decorator
  | .subtree => stats.subtree

/-- Counts one more node. -/
def add (stats : TreeStats) (node : Node) : TreeStats :=
  let counted :=
    match node.kind with
    | .control => { stats with control := stats.control + 1 }
    | .action => { stats with action := stats.action + 1 }
    | .condition => { stats with condition := stats.condition + 1 }
    | .decorator => { stats with decorator := stats.decorator + 1 }
    | .subtree => { stats with subtree := stats.subtree + 1 }
  { counted with total := stats.total + 1, maxDepth := max stats.maxDepth node.depth }

/-- The counts of a tree. -/
def of (root : Node) : TreeStats := root.nodes.foldl add zero

/-- The counts of two sets of trees together. -/
def merge (a b : TreeStats) : TreeStats where
  total := a.total + b.total
  control := a.control + b.control
  action := a.action + b.action
  condition := a.condition + b.condition
  decorator := a.decorator + b.decorator
  subtree := a.subtree + b.subtree
  maxDepth := max a.maxDepth b.maxDepth

end TreeStats

/-- The counts of a document. -/
structure DocumentStats where
  trees : Nat
  nodes : TreeStats
  deriving DecidableEq, Repr

namespace DocumentStats

/-- The counts over all trees of a document. -/
def of (document : Document) : DocumentStats where
  trees := document.size
  nodes := (document.definitions.map fun entry => TreeStats.of entry.2).foldl .merge .zero

/-- The counts as a block of text, a line for each number. -/
def text (stats : DocumentStats) : String :=
  "\n".intercalate
    [ "Trees:           " ++ toString stats.trees,
      "Nodes:           " ++ toString stats.nodes.total,
      "  Control:       " ++ toString stats.nodes.control,
      "  Action:        " ++ toString stats.nodes.action,
      "  Condition:     " ++ toString stats.nodes.condition,
      "  Decorator:     " ++ toString stats.nodes.decorator,
      "  SubTree:       " ++ toString stats.nodes.subtree,
      "Max depth:       " ++ toString stats.nodes.maxDepth ]

end DocumentStats

end BehaviorDiff
