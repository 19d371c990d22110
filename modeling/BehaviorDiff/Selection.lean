import BehaviorDiff.Diff.PathIndex
import BehaviorDiff.Tree.Document

set_option autoImplicit false

/-!
The choice of the tree to compare. A tree that is asked for by name must be in both documents.
Otherwise every tree that both define gets one point for every hint that one of its nodes carries,
and the best one wins; among equals the default tree wins, and without it the smallest name.
-/

namespace BehaviorDiff

/-- What the choice depends on. -/
structure SelectionRule where
  explicit : Option String
  hints : List String
  defaultTree : String

/-- A tree with its points. -/
structure Selection where
  name : String
  score : Nat
  deriving DecidableEq, Repr

/-- Why no tree could be chosen. -/
inductive SelectionError where
  | notFound (name : String) (side : Side)
  | noSharedTree
  deriving DecidableEq, Repr

/-- The text of the error. -/
def SelectionError.message : SelectionError → String
  | notFound name side => "tree '" ++ name ++ "' not found in " ++ side.label ++ " document"
  | noSharedTree => "the two documents share no behavior tree"

/-- The attributes whose values are compared with the hints. -/
def hintAttributes : List String := ["ID", "name"]

/-- The identifiers that the nodes of a tree carry. -/
def Node.identifiers (root : Node) : List String :=
  root.nodes.flatMap fun node => hintAttributes.filterMap node.attribute?

/-- The number of different hints that occur in a tree. -/
def hintScore (hints : List String) (root : Node) : Nat :=
  (root.identifiers.filter (· ∈ hints)).eraseDups.length

namespace Selection

/-- Whether a candidate takes the place of the best tree so far. -/
def beats (defaultTree : String) (candidate best : Selection) : Bool :=
  if candidate.score ≠ best.score then candidate.score > best.score
  else if best.name = defaultTree then false
  else candidate.name = defaultTree || candidate.name < best.name

/-- The better of the best tree so far and a candidate. -/
def better (defaultTree : String) : Option Selection → Selection → Option Selection
  | none, candidate => some candidate
  | some best, candidate => if candidate.beats defaultTree best then some candidate else some best

end Selection

/-- The trees that both documents define, with their points in the new document. -/
def selectionCandidates (rule : SelectionRule) (old new : Document) : List Selection :=
  (new.definitions.filter fun entry => old.contains entry.1).map fun entry =>
    ⟨entry.1, hintScore rule.hints entry.2⟩

/-- Chooses the tree to compare. -/
def selectTree (rule : SelectionRule) (old new : Document) : Except SelectionError Selection :=
  match rule.explicit with
  | some name =>
    match new.get? name, old.get? name with
    | none, _ => .error (.notFound name .new)
    | some _, none => .error (.notFound name .old)
    | some root, some _ => .ok ⟨name, hintScore rule.hints root⟩
  | none =>
    match (selectionCandidates rule old new).foldl (Selection.better rule.defaultTree) none with
    | some selection => .ok selection
    | none => .error .noSharedTree

end BehaviorDiff
