import BehaviorDiff.Diff.Documents
import BehaviorDiff.Report.Summary
import BehaviorDiff.Timestamp

set_option autoImplicit false

/-!
A report is a copy of the results of a comparison that no longer needs the trees. It holds one
record for every change that is to be shown, and counts of all changes, shown or not.
-/

namespace BehaviorDiff

/-- Where the two documents came from. -/
structure Sources where
  old : String
  new : String
  deriving DecidableEq

/-- A change as a report shows it. -/
structure ChangeRecord where
  kind : ChangeKind
  oldPath : Option String
  newPath : Option String
  tag : String
  nodeKind : NodeKind
  identity : OrderedMap String String
  tagDelta : Option (Delta String)
  kindDelta : Option (Delta String)
  attributeDeltas : AttributeDeltas
  deriving DecidableEq

/-- The record of a change. -/
def ChangeRecord.ofChange (change : Change) : ChangeRecord where
  kind := change.kind
  oldPath := change.old?.map Node.path
  newPath := change.new?.map Node.path
  tag := change.subject.tag
  nodeKind := change.subject.kind
  identity := .ofList change.subject.identity
  tagDelta := change.delta.tag
  kindDelta := change.delta.kind.map fun delta => ⟨delta.old.label, delta.new.label⟩
  attributeDeltas := change.delta.attributes

/-- The results for one tree. -/
structure TreeReport where
  name : String
  summary : Summary
  changes : List ChangeRecord
  deriving DecidableEq

/-- The results for one tree; unchanged nodes have a record only on request. -/
def TreeReport.ofDiff (diff : TreeDiff) (showUnchanged : Bool) : TreeReport where
  name := diff.name
  summary := .of diff.changes
  changes := (diff.changes.filter fun change => showUnchanged || change.isChange).map .ofChange

/-- A changed reference as a report shows it. -/
structure ReferenceRecord where
  kind : ChangeKind
  id : String
  attributeDeltas : AttributeDeltas
  deriving DecidableEq

/-- The record of a changed reference. -/
def ReferenceRecord.ofChange (change : ReferenceChange) : ReferenceRecord :=
  ⟨change.kind, change.id, change.deltas⟩

/-- All results of a comparison. -/
structure Report where
  sources : Sources
  generatedAt : Timestamp
  trees : List TreeReport
  addedTrees : List String
  removedTrees : List String
  references : List ReferenceRecord

namespace Report

/-- The report on one tree. -/
def ofTree (sources : Sources) (generatedAt : Timestamp) (diff : TreeDiff)
    (showUnchanged : Bool) : Report where
  sources
  generatedAt
  trees := [.ofDiff diff showUnchanged]
  addedTrees := []
  removedTrees := []
  references := []

/-- The report on all trees of two documents. -/
def ofDocuments (sources : Sources) (generatedAt : Timestamp) (diff : DocumentDiff)
    (showUnchanged : Bool) : Report where
  sources
  generatedAt
  trees := diff.trees.map fun tree => .ofDiff tree showUnchanged
  addedTrees := diff.addedTrees
  removedTrees := diff.removedTrees
  references := diff.references.map .ofChange

/-- Whether anything differs, by the counts and lists of the report. -/
def hasChanges (report : Report) : Bool :=
  !report.addedTrees.isEmpty || !report.removedTrees.isEmpty || !report.references.isEmpty ||
    report.trees.any fun tree => tree.summary.changed > 0

end Report

end BehaviorDiff
