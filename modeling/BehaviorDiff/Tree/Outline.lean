import BehaviorDiff.Tree.Node

set_option autoImplicit false

/-!
The outline of a tree: one line per node in pre-order. A line starts with one group of three
characters for every step from the root, blank where the step leads to a last child and a bar
elsewhere.
-/

namespace BehaviorDiff.Outline

/-- The attributes that an outline shows. -/
def shownAttributes : List String := ["ID", "name", "sub_tree_name", "service_name"]

/-- The group in front of everything below a last child. -/
def blankGroup : String := "   "

/-- The group in front of everything below a child that has later siblings. -/
def barGroup : String := "│  "

/-- The line of a node without its groups. -/
def label (tag : String) (kind : NodeKind) (attributes : Attributes) : String :=
  let shown := (attributes.entries.filter fun entry => entry.1 ∈ shownAttributes).map
    fun entry => entry.1 ++ "=\"" ++ entry.2 ++ "\""
  "├─ " ++ tag ++ "(" ++ kind.label ++ ")" ++
    if shown.isEmpty then "" else " " ++ " ".intercalate shown

mutual

/-- The lines of a tree behind the groups of its root. -/
def linesFrom (groups : String) : Node → List String
  | ⟨tag, kind, attributes, children, _, _⟩ =>
    (groups ++ label tag kind attributes) :: childLines groups children

/-- The lines of a row of siblings behind the groups of their parent. -/
def childLines (groups : String) : List Node → List String
  | [] => []
  | child :: rest =>
    linesFrom (groups ++ if rest.isEmpty then blankGroup else barGroup) child ++
      childLines groups rest

end

/-- The outline of a tree, line by line. -/
def lines (root : Node) : List String := linesFrom "" root

end BehaviorDiff.Outline
