import BehaviorDiff.Report.Model
import BehaviorDiff.Text.Json

set_option autoImplicit false

/-!
Reports for programs. Fields come in a fixed order; optional fields are left out when they have no
value, and lists and maps that are optional when they are empty.
-/

namespace BehaviorDiff

/-- A field that is left out when there is no value. -/
def optionalField {α : Type} (name : String) (toJson : α → JsonValue) :
    Option α → List (String × JsonValue)
  | none => []
  | some value => [(name, toJson value)]

/-- A field that is left out when the list is empty. -/
def listField {α : Type} (name : String) (toJson : α → JsonValue) (items : List α) :
    List (String × JsonValue) :=
  if items.isEmpty then [] else [(name, .list (items.map toJson))]

/-- A field that is left out when the map is empty. -/
def mapField {α : Type} (name : String) (toJson : α → JsonValue) (entries : OrderedMap String α) :
    List (String × JsonValue) :=
  if entries.isEmpty then []
  else [(name, .object (entries.entries.map fun entry => (entry.1, toJson entry.2)))]

/-- The two sides of a difference. -/
def Delta.json (delta : Delta String) : JsonValue :=
  .object [("old", .text delta.old), ("new", .text delta.new)]

/-- The counts by class. -/
def Summary.json (summary : Summary) : JsonValue :=
  .object
    [ ("added", .number summary.added),
      ("removed", .number summary.removed),
      ("modified", .number summary.modified),
      ("moved", .number summary.moved),
      ("unchanged", .number summary.unchanged) ]

/-- A change. -/
def ChangeRecord.json (record : ChangeRecord) : JsonValue :=
  .object
    ([("kind", .text record.kind.label)] ++
      optionalField "old_path" .text record.oldPath ++
      optionalField "new_path" .text record.newPath ++
      [("tag", .text record.tag), ("node_kind", .text record.nodeKind.label)] ++
      mapField "identity" .text record.identity ++
      optionalField "tag_delta" Delta.json record.tagDelta ++
      optionalField "kind_delta" Delta.json record.kindDelta ++
      mapField "attribute_deltas" Delta.json record.attributeDeltas)

/-- The results for a tree. -/
def TreeReport.json (tree : TreeReport) : JsonValue :=
  .object
    [ ("name", .text tree.name),
      ("summary", tree.summary.json),
      ("changes", .list (tree.changes.map ChangeRecord.json)) ]

/-- A changed reference. -/
def ReferenceRecord.json (record : ReferenceRecord) : JsonValue :=
  .object
    ([("kind", .text record.kind.label), ("id", .text record.id)] ++
      mapField "attribute_deltas" Delta.json record.attributeDeltas)

namespace Report

/-- The report as a value. -/
def json (report : Report) : JsonValue :=
  .object
    ([ ("sources",
          .object [("old", .text report.sources.old), ("new", .text report.sources.new)]),
        ("generated_at", .text report.generatedAt.text),
        ("trees", .list (report.trees.map TreeReport.json)) ] ++
      listField "added_trees" .text report.addedTrees ++
      listField "removed_trees" .text report.removedTrees ++
      listField "subtree_refs" ReferenceRecord.json report.references)

/-- The report as indented JSON text. -/
def jsonText (report : Report) : String := report.json.pretty 0

end Report

end BehaviorDiff
