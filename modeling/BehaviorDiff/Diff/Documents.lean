import BehaviorDiff.Diff.Compare
import BehaviorDiff.Tree.Document

set_option autoImplicit false

/-!
The comparison of two documents: every tree that both define is compared, the trees that only one
defines are listed, and the references from one tree to another are compared by the first node that
makes each of them.
-/

namespace BehaviorDiff

/-- The changes within one tree that both documents define. -/
structure TreeDiff where
  name : String
  changes : List Change

/-- Whether anything differs. -/
def TreeDiff.hasChanges (diff : TreeDiff) : Bool := diff.changes.any Change.isChange

/-- What happened to the reference to a tree. -/
inductive ReferenceChange where
  | added (id : String)
  | removed (id : String)
  | modified (id : String) (deltas : AttributeDeltas)

namespace ReferenceChange

/-- The class of a change. -/
def kind : ReferenceChange → ChangeKind
  | added _ => .added
  | removed _ => .removed
  | modified _ _ => .modified

/-- The tree that is referred to. -/
def id : ReferenceChange → String
  | added id | removed id | modified id _ => id

/-- The attributes in which the two references differ. -/
def deltas : ReferenceChange → AttributeDeltas
  | modified _ deltas => deltas
  | _ => .empty

end ReferenceChange

/-- Every subtree node with an identity, in document pre-order. -/
def Document.subtreeNodes (document : Document) : List (String × Node) :=
  document.definitions.flatMap fun entry =>
    (entry.2.nodes.filter fun node => node.kind = .subtree).filterMap fun node =>
      node.attributes.id?.map fun id => (id, node)

/-- The references of a document: each identity with the first node that has it. -/
def Document.references (document : Document) : OrderedMap String Node :=
  document.subtreeNodes.foldl
    (fun found entry =>
      if found.contains entry.1 then found else found.insert entry.1 entry.2) .empty

/-- What happened to a reference that the old document has. -/
def referenceChange? (options : CompareOptions) (newReferences : OrderedMap String Node)
    (id : String) (old : Node) : Option ReferenceChange :=
  match newReferences.get? id with
  | none => some (.removed id)
  | some new =>
    let deltas := attributeDeltas options old new
    if deltas.isEmpty then none else some (.modified id deltas)

/-- The changed references: the old document's in its order, then those only the new one has. -/
def referenceChanges (options : CompareOptions) (old new : Document) : List ReferenceChange :=
  let oldReferences := old.references
  let newReferences := new.references
  (oldReferences.entries.filterMap fun entry =>
      referenceChange? options newReferences entry.1 entry.2) ++
    (newReferences.keys.filter fun id => !oldReferences.contains id).map .added

/-- Everything in which two documents differ. -/
structure DocumentDiff where
  trees : List TreeDiff
  addedTrees : List String
  removedTrees : List String
  references : List ReferenceChange

/-- Whether the documents differ in any way. -/
def DocumentDiff.hasChanges (diff : DocumentDiff) : Bool :=
  !diff.addedTrees.isEmpty || !diff.removedTrees.isEmpty || !diff.references.isEmpty ||
    diff.trees.any TreeDiff.hasChanges

/-- A tree that both documents define, with the outcome of comparing its two versions. -/
structure SharedTree where
  name : String
  old : Node
  new : Node
  outcome : Except DuplicatePath (List Change)

/-- The trees that both documents define, compared, in the old document's order. -/
def sharedTrees (options : CompareOptions) (old new : Document) : List SharedTree :=
  old.definitions.filterMap fun entry =>
    (new.get? entry.1).map fun root => ⟨entry.1, entry.2, root, compareTrees options entry.2 root⟩

/-- The changes of the compared trees, or the first failure. -/
def treeDiffs (shared : List SharedTree) : Except DuplicatePath (List TreeDiff) :=
  shared.mapM fun tree => tree.outcome.map fun changes => ⟨tree.name, changes⟩

/-- Compares two documents; fails if a tree that both define cannot be compared. -/
def compareDocuments (options : CompareOptions) (old new : Document) :
    Except DuplicatePath DocumentDiff := do
  let trees ← treeDiffs (sharedTrees options old new)
  return {
    trees
    addedTrees := new.names.filter fun name => !old.contains name
    removedTrees := old.names.filter fun name => !new.contains name
    references := referenceChanges options old new }

end BehaviorDiff
