import BehaviorDiff.Proofs.Tree.Edit
import BehaviorDiff.Tree.Outline

set_option autoImplicit false

/-!
The outline of a tree as a drawing of its shape. A line stands for the node at a position, and what
stands in front of its branch mark can be read off the position: one group for every step down,
which is blank if the step leads to the last child of a node and a bar if siblings follow. The
groups are threaded through the recursion, so the lines of a tree are described behind any groups
that its root has got already.
-/

namespace BehaviorDiff

namespace Node

/-- The position is that of a last child. -/
def EndsRow (root : Node) (position : Position) : Prop :=
  ∃ above index parent, position = above ++ [index] ∧ root.at? above = some parent ∧
    index + 1 = parent.children.length

theorem endsRow_singleton_iff {root : Node} {index : Nat} :
    root.EndsRow [index] ↔ index + 1 = root.children.length := by
  constructor
  · rintro ⟨above, index', parent, split, found, last⟩
    rcases List.singleton_eq_append_iff.1 split with ⟨rfl, same⟩ | ⟨-, absurd⟩
    · cases same
      cases found
      exact last
    · cases absurd
  · intro last
    exact ⟨[], index, root, rfl, rfl, last⟩

/-- Below a child, a row of the tree is a row of the child. -/
theorem endsRow_cons_iff {root child : Node} {index : Nat} {below : Position}
    (here : root.children[index]? = some child) (deeper : below ≠ []) :
    root.EndsRow (index :: below) ↔ child.EndsRow below := by
  constructor
  · rintro ⟨above, last, parent, split, found, ends⟩
    rcases List.cons_eq_append_iff.1 split with ⟨-, same⟩ | ⟨above, rfl, rfl⟩
    · exact absurd (List.cons.inj same).2.symm deeper
    · rw [at?_cons, here] at found
      exact ⟨above, last, parent, rfl, found, ends⟩
  · rintro ⟨above, last, parent, rfl, found, ends⟩
    exact ⟨index :: above, last, parent, rfl, at?_cons_eq_some_iff.2 ⟨child, here, found⟩, ends⟩

end Node

namespace Outline

/-- What stands in front of the line of the node at a position: a group for every step down, blank
behind the last child of a node and a bar behind any other. -/
structure Indents (root : Node) (position : Position) (groups : List String) : Prop where
  length : groups.length = position.length
  blank : ∀ k < position.length,
    groups[k]? = some "   " ↔ root.EndsRow (position.take (k + 1))
  bar : ∀ k < position.length,
    groups[k]? = some "│  " ↔ ¬ root.EndsRow (position.take (k + 1))

/-- The attributes that an outline shows, in source order, each behind a space. -/
def attributeText (attributes : Attributes) : String :=
  String.join ((attributes.entries.filter fun entry =>
      entry.1 ∈ ["ID", "name", "sub_tree_name", "service_name"]).map
    fun entry => " " ++ entry.1 ++ "=\"" ++ entry.2 ++ "\"")

/-- The line draws the node at a position, behind what stands in front of the root. -/
def Draws (earlier : String) (root : Node) (position : Position) (line : String) : Prop :=
  ∃ node groups, root.at? position = some node ∧ Indents root position groups ∧
    line = earlier ++ String.join groups ++ "├─ " ++ node.tag ++ "(" ++ node.kind.label ++ ")" ++
      attributeText node.attributes

theorem spaced_eq_join (texts : List String) :
    (if texts.isEmpty then "" else " " ++ " ".intercalate texts) =
      String.join (texts.map (" " ++ ·)) := by
  induction texts with
  | nil => rfl
  | cons text rest ih =>
    cases rest with
    | nil => simp
    | cons next rest =>
      simp only [List.isEmpty_cons, Bool.false_eq_true, if_false] at ih ⊢
      rw [String.intercalate_cons_cons, List.map_cons, String.join_cons, ← ih]
      simp only [String.append_assoc]

theorem label_eq (tag : String) (kind : NodeKind) (attributes : Attributes) :
    label tag kind attributes =
      "├─ " ++ tag ++ "(" ++ kind.label ++ ")" ++ attributeText attributes := by
  have shown : attributeText attributes = String.join
      (((attributes.entries.filter fun entry => entry.1 ∈ shownAttributes).map
        fun entry => entry.1 ++ "=\"" ++ entry.2 ++ "\"").map (" " ++ ·)) := by
    rw [attributeText, List.map_map]
    simp only [Function.comp_def, String.append_assoc]
    rfl
  rw [label, shown, ← spaced_eq_join]

theorem indents_nil (root : Node) : Indents root [] [] where
  length := rfl
  blank k bound := absurd bound (Nat.not_lt_zero k)
  bar k bound := absurd bound (Nat.not_lt_zero k)

/-- A step down puts its group in front of those of the child. -/
theorem Indents.cons {root child : Node} {index : Nat} {below : Position} {group : String}
    {groups : List String} (here : root.children[index]? = some child)
    (inside : Indents child below groups)
    (drawn : group = if index + 1 = root.children.length then "   " else "│  ") :
    Indents root (index :: below) (group :: groups) := by
  have later {k : Nat} (bound : k + 1 < (index :: below).length) :
      root.EndsRow ((index :: below).take (k + 1 + 1)) ↔ child.EndsRow (below.take (k + 1)) := by
    refine Node.endsRow_cons_iff here fun empty => ?_
    rw [List.take_eq_nil_iff] at empty
    rcases empty with zero | rfl
    · cases zero
    · simp at bound
  have each (k : Nat) (bound : k < (index :: below).length) :
      ((group :: groups)[k]? = some "   " ↔ root.EndsRow ((index :: below).take (k + 1))) ∧
        ((group :: groups)[k]? = some "│  " ↔ ¬ root.EndsRow ((index :: below).take (k + 1))) := by
    cases k with
    | zero =>
      rw [List.take_succ_cons, List.take_zero, Node.endsRow_singleton_iff, drawn]
      split <;> simp [*]
    | succ k =>
      rw [later bound]
      have deeper := Nat.lt_of_succ_lt_succ bound
      exact ⟨inside.blank k deeper, inside.bar k deeper⟩
  exact ⟨congrArg (· + 1) inside.length, fun k bound => (each k bound).1,
    fun k bound => (each k bound).2⟩

theorem Draws.cons {earlier group line : String} {root child : Node} {index : Nat}
    {below : Position} (here : root.children[index]? = some child)
    (drawn : group = if index + 1 = root.children.length then "   " else "│  ")
    (inside : Draws (earlier ++ group) child below line) :
    Draws earlier root (index :: below) line := by
  obtain ⟨node, groups, found, indents, rfl⟩ := inside
  refine ⟨node, group :: groups, Node.at?_cons_eq_some_iff.2 ⟨child, here, found⟩,
    indents.cons here drawn, ?_⟩
  rw [String.join_cons]
  simp only [String.append_assoc]

mutual

/-- The lines of a tree draw its nodes in pre-order. -/
theorem forall₂_linesFrom :
    (earlier : String) → (root : Node) →
      List.Forall₂ (Draws earlier root) root.positions (linesFrom earlier root)
  | earlier, ⟨tag, kind, attributes, children, depth, path⟩ => by
    rw [Node.positions, linesFrom, List.forall₂_cons]
    refine ⟨⟨_, [], rfl, indents_nil _, ?_⟩,
      forall₂_childLines earlier ⟨tag, kind, attributes, children, depth, path⟩ [] children rfl⟩
    rw [label_eq, String.join_nil, String.append_empty]
    simp only [String.append_assoc]

private theorem forall₂_childLines (earlier : String) (parent : Node) :
    (before rest : List Node) → parent.children = before ++ rest →
      List.Forall₂ (Draws earlier parent) (Node.positionsFrom before.length rest)
        (childLines earlier rest)
  | _, [], _ => .nil
  | before, child :: rest, split => by
    have here : parent.children[before.length]? = some child := by rw [split]; simp
    have drawn : (if rest.isEmpty then blankGroup else barGroup) =
        if before.length + 1 = parent.children.length then "   " else "│  " := by
      rw [split, List.length_append]
      cases rest with
      | nil => exact (if_pos rfl).symm
      | cons next rest =>
        have followed : before.length + 1 ≠ before.length + (child :: next :: rest).length := by
          simp
        exact (if_neg followed).symm
    have first : List.Forall₂ (Draws earlier parent)
        (child.positions.map (before.length :: ·))
        (linesFrom (earlier ++ if rest.isEmpty then blankGroup else barGroup) child) := by
      rw [List.forall₂_map_left_iff]
      exact (forall₂_linesFrom _ child).imp fun position line inside => inside.cons here drawn
    have later := forall₂_childLines earlier parent (before ++ [child]) rest (by simp [split])
    rw [List.length_append, List.length_singleton] at later
    rw [Node.positionsFrom, childLines]
    exact List.rel_append first later

end

/-- The outline of a built tree has one line for every node, in pre-order. The line of a node shows
its tag, its kind and its attributes behind as many groups as the node is deep, and a group is blank
exactly if the node above at its depth, or the node itself, is the last child of its parent. -/
theorem lines_draw_shape (draft : Draft) :
    (lines draft.build).length = draft.build.preorder.length ∧
    List.Forall₂ (fun position node => draft.build.at? position = some node)
      draft.build.positions draft.build.preorder ∧
    List.Forall₂ (fun position line => ∃ node groups, draft.build.at? position = some node ∧
        node.depth = position.length ∧ Indents draft.build position groups ∧
        line = String.join groups ++ "├─ " ++ node.tag ++ "(" ++ node.kind.label ++ ")" ++
          attributeText node.attributes)
      draft.build.positions (lines draft.build) := by
  have placed := Node.forall₂_positions draft.build
  have drawn : List.Forall₂ (Draws "" draft.build) draft.build.positions (lines draft.build) :=
    forall₂_linesFrom "" draft.build
  refine ⟨drawn.length_eq.symm.trans placed.length_eq, placed, drawn.imp ?_⟩
  rintro position line ⟨node, groups, found, indents, rfl⟩
  have deep : node.depth = 0 + position.length := Draft.depth_of_at? found
  rw [Nat.zero_add] at deep
  exact ⟨node, groups, found, deep, indents, by rw [String.empty_append]⟩

example : lines (((Draft.new "Sequence").pushChild ((Draft.new "Inverter").pushChild
      ((Draft.new "Action").setAttribute "ID" "Wait"))).pushChild (Draft.new "Dock")).build =
    ["├─ Sequence(control)", "│  ├─ Inverter(decorator)", "│     ├─ Action(action) ID=\"Wait\"",
      "   ├─ Dock(action)"] := by decide

end Outline

end BehaviorDiff
