import BehaviorDiff.Report.Model

set_option autoImplicit false

/-!
Reports for people. The time of the report is left out, so that equal results have equal texts.
-/

namespace BehaviorDiff

namespace ChangeRecord

/-- Differing attributes, each on a line of its own behind an indentation. -/
def deltaLines (deltas : AttributeDeltas) (indent : String) : String :=
  String.join (deltas.entries.map fun entry =>
    "\n" ++ indent ++ entry.1 ++ ": '" ++ entry.2.old ++ "' → '" ++ entry.2.new ++ "'")

/-- The tag and kind of the node, and what identifies it. -/
def nodeInfo (record : ChangeRecord) : String :=
  let identity := record.identity.entries.map fun entry => entry.1 ++ "='" ++ entry.2 ++ "'"
  record.tag ++ " (" ++ record.nodeKind.label ++ ")" ++
    if identity.isEmpty then "" else " [" ++ ", ".intercalate identity ++ "]"

/-- A line for a differing value of a node, if there is one. -/
def deltaLine (title : String) : Option (Delta String) → String
  | none => ""
  | some delta => "\n  " ++ title ++ ": '" ++ delta.old ++ "' → '" ++ delta.new ++ "'"

/-- The entry of a change. -/
def text (record : ChangeRecord) : String :=
  let old := record.oldPath.getD ""
  let new := record.newPath.getD ""
  match record.kind with
  | .added => "+ ADDED: " ++ new ++ "\n  " ++ record.nodeInfo
  | .removed => "- REMOVED: " ++ old ++ "\n  " ++ record.nodeInfo
  | .moved => "→ MOVED: " ++ old ++ " → " ++ new ++ "\n  " ++ record.nodeInfo
  | .unchanged => "  UNCHANGED: " ++ old
  | .modified =>
    "* MODIFIED: " ++ old ++ deltaLine "Tag" record.tagDelta ++ deltaLine "Kind" record.kindDelta ++
      if record.attributeDeltas.isEmpty then ""
      else "\n  Attribute changes:" ++ deltaLines record.attributeDeltas "    "

end ChangeRecord

/-- The entry of a changed reference. -/
def ReferenceRecord.text (record : ReferenceRecord) : String :=
  let marker :=
    match record.kind with
    | .added => "+"
    | .removed => "-"
    | _ => "*"
  "  " ++ marker ++ " " ++ record.id ++ ChangeRecord.deltaLines record.attributeDeltas "      "

/-- The entries of a tree, each before an empty line. -/
def TreeReport.entries (tree : TreeReport) : List String :=
  if tree.changes.isEmpty then ["No changes.", ""]
  else tree.changes.flatMap fun record => [record.text, ""]

/-- The block of a tree. -/
def TreeReport.blocks (tree : TreeReport) : List String :=
  ["Tree: " ++ tree.name, tree.summary.text, ""] ++ tree.entries

namespace Report

/-- A titled list with an empty line behind it; nothing if there is nothing to list. -/
def listBlock (title : String) (items : List String) : List String :=
  if items.isEmpty then [] else title :: items ++ [""]

/-- The report as text. -/
def text (report : Report) : String :=
  "\n".intercalate
    (["BehaviorTree XML Structural Diff", "================================",
        "Old file: " ++ report.sources.old, "New file: " ++ report.sources.new, ""] ++
      report.trees.flatMap TreeReport.blocks ++
      listBlock "Added trees:" (report.addedTrees.map ("  + " ++ ·)) ++
      listBlock "Removed trees:" (report.removedTrees.map ("  - " ++ ·)) ++
      listBlock "SubTree references:" (report.references.map ReferenceRecord.text))

end Report

end BehaviorDiff
