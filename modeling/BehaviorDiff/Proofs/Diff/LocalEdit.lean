import BehaviorDiff.Proofs.Diff.Patch
import BehaviorDiff.Proofs.Diff.Reparenting
import BehaviorDiff.Proofs.Tree.Order

set_option autoImplicit false

/-!
Local edits seen by a comparison. Other attributes for one node, with the same identity, change no
path, so the comparison finds every node at its place and reports that node alone. A tree that is
appended below some node changes no path of the other nodes, so its nodes are the only ones that are
added, or, the other way round, removed; whatever signatures they have, nothing can be moved,
because every path of the smaller tree is a path of the larger one.
-/

namespace BehaviorDiff

namespace Draft

/-- Gives what stands at a position other attributes. -/
def setAttributesAt (draft : Draft) (position : Position) (attributes : Attributes) : Draft :=
  draft.modifyAt position fun inner => { inner with attributes }

/-- Other attributes of one identity change the node itself and no other one; below it and beside
it all nodes stay as they are, but for their children. -/
theorem exists_build_setAttributesAt {draft inner : Draft} {place : Position}
    (found : draft.at? place = some inner) {attributes : Attributes}
    (identity : attributes.id? = inner.attributes.id?) :
    ∃ path depth,
      draft.build.at? place = some (inner.buildAt path depth) ∧
      (draft.setAttributesAt place attributes).build.at? place =
        some (Draft.buildAt path depth { inner with attributes }) ∧
      ∀ other, other ≠ place →
        ((draft.setAttributesAt place attributes).build.at? other).map Node.alone =
          (draft.build.at? other).map Node.alone := by
  let edit (inner : Draft) : Draft := { inner with attributes }
  have same : SameName (edit inner) inner := ⟨rfl, identity⟩
  have root : (draft.setAttributesAt place attributes).tag = draft.tag := (same.modifyAt found).1
  obtain ⟨path, depth, before, after, elsewhere⟩ := exists_buildAt_of_at? found same draft.tag 0
  rw [build, build, root]
  refine ⟨path, depth, before, after, fun other apart => ?_⟩
  by_cases inside : place <+: other
  · obtain ⟨below, rfl⟩ := inside
    have deeper (parent : Draft) (h : parent.children = inner.children) :
        (parent.buildAt path depth).at? below = (inner.buildAt path depth).at? below := by
      cases below with
      | nil => exact absurd (List.append_nil place) apart
      | cons index below => rw [Node.at?_cons, Node.at?_cons, children_buildAt, children_buildAt, h]
    rw [Node.at?_append, Node.at?_append, before]
    change ((((draft.modifyAt place edit).buildAt draft.tag 0).at? place).bind _).map _ = _
    rw [after, Option.bind_some, Option.bind_some, deeper (edit inner) rfl]
  · exact elsewhere other inside

end Draft

theorem Node.exists_of_map_alone_eq {here there : Option Node} {node : Node}
    (alike : there.map Node.alone = here.map Node.alone) (found : here = some node) :
    ∃ other, there = some other ∧ node.alone = other.alone := by
  rw [found, Option.map_some, Option.map_eq_some_iff] at alike
  obtain ⟨other, found', alike⟩ := alike
  exact ⟨other, found', alike.symm⟩

/-- At a position both trees have nodes that are reported as unchanged. -/
def ReportsUnchanged (old new : Node) (position : Position) (change : Change) : Prop :=
  ∃ before after, old.at? position = some before ∧ new.at? position = some after ∧
    change = .unchanged before after

/-- A change reports of two nodes the attributes that count and differ, and nothing else. -/
def ReportsAttributes (options : CompareOptions) (before after : Node) (change : Change) : Prop :=
  (change = .unchanged before after ∧ ∀ name, differs options before after name = false) ∨
    ∃ deltas : AttributeDeltas, change = .modified before after ⟨none, none, deltas⟩ ∧
      (∃ name, differs options before after name = true) ∧
      ∀ name delta, deltas.get? name = some delta ↔ differs options before after name = true ∧
        delta = ⟨before.attributeOrEmpty name, after.attributeOrEmpty name⟩

/-- What is reported at a position if one node alone has got other attributes. -/
def ReportsEdit (options : CompareOptions) (old new : Node) (place position : Position)
    (change : Change) : Prop :=
  if position = place then
    ∃ before after, old.at? place = some before ∧ new.at? place = some after ∧
      ReportsAttributes options before after change
  else ReportsUnchanged old new position change

/-- What is reported at a position if the tree at one place has been taken away. -/
def ReportsCut (old new : Node) (place position : Position) (change : Change) : Prop :=
  if place <+: position then ∃ node, old.at? position = some node ∧ change = .removed node
  else ReportsUnchanged old new position change

/-- Nodes of one tag and kind are compared by their attributes. -/
theorem reportsAttributes_compareContent (options : CompareOptions) {before after : Node}
    (tag : before.tag = after.tag) (kind : before.kind = after.kind) :
    ReportsAttributes options before after (compareContent options before after) := by
  have alike : (contentDelta options before after).isEmpty = true ↔
      ∀ name, differs options before after name = false := by
    rw [isEmpty_contentDelta_iff]
    simp only [tag, kind, true_and, ← Bool.not_eq_true, differs_iff, not_and_or, Classical.not_not]
  by_cases empty : (contentDelta options before after).isEmpty = true
  · exact .inl ⟨compareContent_eq_unchanged_iff.2 empty, alike.1 empty⟩
  · have changed : compareContent options before after =
        .modified before after (contentDelta options before after) := if_neg empty
    rw [alike, not_forall] at empty
    simp only [Bool.not_eq_false] at empty
    refine .inr ⟨attributeDeltas options before after, ?_, empty,
      fun name delta => get?_attributeDeltas_eq_some_iff⟩
    rw [changed, contentDelta, delta?_eq_none_iff.2 tag, delta?_eq_none_iff.2 kind]

/-- A node at whose path the other tree has a node is compared with it, whatever has moved. -/
theorem Moves.changeOfOld_of_at? (options : CompareOptions) (moves : List Move) {new : Node}
    {index : PathIndex} (nodes : index.nodes = new.preorder) {before after : Node}
    {position : Position} (found : new.at? position = some after)
    (same : before.path = after.path) :
    changeOfOld options index moves before = compareContent options before after := by
  refine changeOfOld_of_get? options moves ?_
  rw [PathIndex.get?_eq_some_iff, nodes]
  exact ⟨Node.mem_preorder_iff.2 ⟨position, found⟩, same.symm⟩

/-- Nothing stays added if every path of the new tree is a path of the old one. -/
theorem Moves.stayAdded_eq_nil {old new : PathIndex} (moves : List Move)
    (known : ∀ node ∈ new.nodes, node.path ∈ old.nodes.map Node.path) :
    stayAdded old new moves = [] := by
  rw [List.eq_nil_iff_forall_not_mem]
  intro node hm
  rw [mem_stayAdded_iff] at hm
  exact hm.2.1 (known node hm.1)

section Edit
variable {old new : Node} {place : Position}

/-- Two trees that differ at one position, and there in attributes alone, are compared position by
position. -/
theorem compareTrees_of_edit (options : CompareOptions) {before after : Node}
    (here : old.at? place = some before) (here' : new.at? place = some after)
    (tag : before.tag = after.tag) (kind : before.kind = after.kind)
    (path : before.path = after.path)
    (elsewhere : ∀ other, other ≠ place →
      (new.at? other).map Node.alone = (old.at? other).map Node.alone)
    (distinct : (old.preorder.map Node.path).Nodup) :
    ∃ changes, compareTrees options old new = .ok changes ∧
      List.Forall₂ (ReportsEdit options old new place) old.positions changes := by
  have samePath (position : Position) :
      (old.at? position).map Node.path = (new.at? position).map Node.path := by
    by_cases edited : position = place
    · rw [edited, here, here', Option.map_some, Option.map_some, path]
    · have paths := congrArg (Option.map Node.path) (elsewhere position edited)
      rw [Option.map_map, Option.map_map] at paths
      exact paths.symm
  have paths : old.preorder.map Node.path = new.preorder.map Node.path :=
    Node.map_preorder_eq_of_at? samePath
  obtain ⟨changes, compared⟩ := exists_changes_of_nodup options distinct (paths ▸ distinct)
  refine ⟨changes, compared, ?_⟩
  obtain ⟨oldIndex, newIndex, moves, ho, hn, -, rfl⟩ := exists_settled_of_compareTrees compared
  have none_added : Moves.stayAdded oldIndex newIndex moves = [] := by
    refine Moves.stayAdded_eq_nil moves fun node hm => ?_
    rw [ho, paths, ← hn]
    exact List.mem_map_of_mem hm
  rw [Moves.settled, none_added, List.map_nil, List.append_nil, ho, List.forall₂_map_right_iff]
  refine (Node.forall₂_positions old).imp fun position node found => ?_
  rw [ReportsEdit]
  split
  · next edited =>
    rw [edited, here] at found
    obtain rfl := Option.some.inj found
    rw [Moves.changeOfOld_of_at? options moves hn here' path]
    exact ⟨before, after, here, here', reportsAttributes_compareContent options tag kind⟩
  · next apart =>
    obtain ⟨other, found', alike⟩ := Node.exists_of_map_alone_eq (elsewhere position apart) found
    rw [Moves.changeOfOld_of_at? options moves hn found' (path_eq_of_alone_eq alike)]
    exact ⟨node, other, found, found', compareContent_of_alone_eq alike options⟩

end Edit

/-- A tree is another one with a tree at a place that was free; every other position has the node
that it had, but for the children. -/
structure Grafted (rest grown : Node) (place : Position) (graft : Node) : Prop where
  here : grown.at? place = some graft
  free : ∀ below, rest.at? (place ++ below) = none
  elsewhere : ∀ other, ¬ place <+: other →
    (grown.at? other).map Node.alone = (rest.at? other).map Node.alone

namespace Grafted
variable {rest grown graft : Node} {place : Position}

/-- Whatever stands in the smaller tree stands in the larger one, too, outside of the graft. -/
theorem exists_grown (h : Grafted rest grown place graft) {position : Position} {node : Node}
    (found : rest.at? position = some node) :
    ¬ place <+: position ∧ ∃ after, grown.at? position = some after ∧ node.alone = after.alone := by
  have outside : ¬ place <+: position := by
    rintro ⟨below, rfl⟩
    rw [h.free below] at found
    cases found
  exact ⟨outside, Node.exists_of_map_alone_eq (h.elsewhere position outside) found⟩

/-- Whatever stands outside of the graft stands in the smaller tree, too. -/
theorem exists_rest (h : Grafted rest grown place graft) {position : Position} {node : Node}
    (found : grown.at? position = some node) (outside : ¬ place <+: position) :
    ∃ before, rest.at? position = some before ∧ node.alone = before.alone :=
  Node.exists_of_map_alone_eq (h.elsewhere position outside).symm found

section Distinct
variable (h : Grafted rest grown place graft)
  (distinct : (grown.preorder.map Node.path).Nodup)

include h

/-- Every path of the smaller tree is a path of the larger one. -/
theorem mem_paths {node : Node} (hm : node ∈ rest.preorder) :
    node.path ∈ grown.preorder.map Node.path := by
  obtain ⟨position, found⟩ := Node.mem_preorder_iff.1 hm
  obtain ⟨-, after, found', alike⟩ := h.exists_grown found
  rw [path_eq_of_alone_eq alike]
  exact List.mem_map_of_mem (Node.mem_preorder_iff.2 ⟨position, found'⟩)

include distinct

theorem nodup_rest : (rest.preorder.map Node.path).Nodup := by
  refine Node.nodup_paths_iff_of_at?.2 fun position position' a b found found' same => ?_
  obtain ⟨-, a', inGrown, alike⟩ := h.exists_grown found
  obtain ⟨-, b', inGrown', alike'⟩ := h.exists_grown found'
  refine Node.position_eq_of_path_eq distinct inGrown inGrown' ?_
  rw [← path_eq_of_alone_eq alike, ← path_eq_of_alone_eq alike', same]

/-- The nodes of the graft are those whose paths the smaller tree does not have. -/
theorem path_mem_iff {position : Position} {node : Node} (found : grown.at? position = some node) :
    node.path ∈ rest.preorder.map Node.path ↔ ¬ place <+: position := by
  constructor
  · intro known
    obtain ⟨before, hm, same⟩ := List.mem_map.1 known
    obtain ⟨position', found'⟩ := Node.mem_preorder_iff.1 hm
    obtain ⟨outside, after, inGrown, alike⟩ := h.exists_grown found'
    have path : after.path = node.path := (path_eq_of_alone_eq alike).symm.trans same
    rwa [← Node.position_eq_of_path_eq distinct inGrown found path]
  · intro outside
    obtain ⟨before, found', alike⟩ := h.exists_rest found outside
    rw [path_eq_of_alone_eq alike]
    exact List.mem_map_of_mem (Node.mem_preorder_iff.2 ⟨position, found'⟩)

/-- What stands outside of a graft is reported as unchanged, and the graft as added behind it, node
by node in pre-order. -/
theorem compareTrees_added (options : CompareOptions) :
    ∃ kept, compareTrees options rest grown = .ok (kept ++ graft.preorder.map .added) ∧
      List.Forall₂ (ReportsUnchanged rest grown) rest.positions kept := by
  obtain ⟨changes, compared⟩ := exists_changes_of_nodup options (h.nodup_rest distinct) distinct
  obtain ⟨oldIndex, newIndex, moves, ho, hn, relocations, rfl⟩ :=
    exists_settled_of_compareTrees compared
  have unmoved : moves = [] := by
    rw [List.eq_nil_iff_forall_not_mem]
    intro move hm
    have moved := (relocations move).1 hm
    rw [ho, hn] at moved
    exact moved.vacated (h.mem_paths moved.before_mem)
  have added : Moves.stayAdded oldIndex newIndex moves = graft.preorder := by
    rw [Moves.stayAdded, unmoved, hn]
    refine Node.filter_preorder h.here fun position node found => ?_
    rw [List.any_nil, Bool.not_false, Bool.and_true, Bool.not_eq_true', ← Bool.not_eq_true,
      PathIndex.contains_iff, ho, h.path_mem_iff distinct found, Classical.not_not]
  rw [Moves.settled, added] at compared
  refine ⟨_, compared, ?_⟩
  rw [ho, List.forall₂_map_right_iff]
  refine (Node.forall₂_positions rest).imp fun position node found => ?_
  obtain ⟨-, after, found', alike⟩ := h.exists_grown found
  rw [Moves.changeOfOld_of_at? options moves hn found' (path_eq_of_alone_eq alike)]
  exact ⟨node, after, found, found', compareContent_of_alone_eq alike options⟩

/-- The other way round the graft is reported as removed in its place, and nothing is added. -/
theorem compareTrees_removed (options : CompareOptions) :
    ∃ changes, compareTrees options grown rest = .ok changes ∧
      List.Forall₂ (ReportsCut grown rest place) grown.positions changes := by
  obtain ⟨changes, compared⟩ := exists_changes_of_nodup options distinct (h.nodup_rest distinct)
  refine ⟨changes, compared, ?_⟩
  obtain ⟨oldIndex, newIndex, moves, ho, hn, relocations, rfl⟩ :=
    exists_settled_of_compareTrees compared
  have unmoved : moves = [] := by
    rw [List.eq_nil_iff_forall_not_mem]
    intro move hm
    have moved := (relocations move).1 hm
    rw [ho, hn] at moved
    exact moved.fresh (h.mem_paths moved.after_mem)
  have none_added : Moves.stayAdded oldIndex newIndex moves = [] := by
    refine Moves.stayAdded_eq_nil moves fun node hm => ?_
    rw [hn] at hm
    rw [ho]
    exact h.mem_paths hm
  rw [Moves.settled, none_added, List.map_nil, List.append_nil, ho, List.forall₂_map_right_iff]
  refine (Node.forall₂_positions grown).imp fun position node found => ?_
  rw [ReportsCut]
  split
  · next inside =>
    refine ⟨node, found, ?_⟩
    rw [Moves.changeOfOld_eq_removed_iff, PathIndex.get?_eq_none_iff, hn,
      h.path_mem_iff distinct found, unmoved]
    exact ⟨not_not_intro inside, rfl⟩
  · next outside =>
    obtain ⟨before, found', alike⟩ := h.exists_rest found outside
    rw [Moves.changeOfOld_of_at? options moves hn found' (path_eq_of_alone_eq alike)]
    exact ⟨node, before, found, found', compareContent_of_alone_eq alike options⟩

end Distinct

end Grafted

/-- A child that is appended is grafted behind its siblings. -/
theorem Draft.exists_grafted_appendAt {root inner : Draft} {place : Position}
    (found : root.at? place = some inner) (child : Draft) :
    ∃ path depth,
      Grafted root.build (root.appendAt place child).build (place ++ [inner.children.length])
        (child.buildAt path depth) := by
  obtain ⟨path, depth, before, here, elsewhere⟩ := exists_build_appendAt found child
  refine ⟨childPath path inner.children inner.children.length child, depth + 1, here [],
    fun below => ?_, elsewhere⟩
  rw [List.append_assoc, Node.at?_append, before, Option.bind_some, List.singleton_append,
    Node.at?_cons, getElem?_children_buildAt, List.getElem?_eq_none (Nat.le_refl _)]
  rfl

/-- Where one node of a tree gets other attributes of the same identity, that node alone is
reported, with exactly those that count and differ. Where a tree is appended below a node, its nodes
are added behind the unchanged nodes of the old tree, and the other way round they are removed in
their places. -/
theorem compareTrees_local (options : CompareOptions) {root inner : Draft} {place : Position}
    (found : root.at? place = some inner) :
    (∀ attributes : Attributes, attributes.id? = inner.attributes.id? →
      (root.build.preorder.map Node.path).Nodup →
        ∃ changes,
          compareTrees options root.build (root.setAttributesAt place attributes).build =
              .ok changes ∧
            List.Forall₂
              (ReportsEdit options root.build (root.setAttributesAt place attributes).build place)
              root.build.positions changes) ∧
    ∀ child : Draft, ((root.appendAt place child).build.preorder.map Node.path).Nodup →
      (∃ path depth kept,
        (root.appendAt place child).build.at? (place ++ [inner.children.length]) =
            some (child.buildAt path depth) ∧
          compareTrees options root.build (root.appendAt place child).build =
              .ok (kept ++ (child.buildAt path depth).preorder.map .added) ∧
            List.Forall₂ (ReportsUnchanged root.build (root.appendAt place child).build)
              root.build.positions kept) ∧
      ∃ changes,
        compareTrees options (root.appendAt place child).build root.build = .ok changes ∧
          List.Forall₂
            (ReportsCut (root.appendAt place child).build root.build
              (place ++ [inner.children.length]))
            (root.appendAt place child).build.positions changes := by
  constructor
  · intro attributes identity distinct
    obtain ⟨path, depth, before, after, elsewhere⟩ :=
      Draft.exists_build_setAttributesAt found identity
    exact compareTrees_of_edit options before after (by simp) (by simp) (by simp) elsewhere distinct
  · intro child distinct
    obtain ⟨path, depth, grafted⟩ := Draft.exists_grafted_appendAt found child
    obtain ⟨kept, compared, unchanged⟩ := grafted.compareTrees_added distinct options
    exact ⟨⟨path, depth, kept, grafted.here, compared, unchanged⟩,
      grafted.compareTrees_removed distinct options⟩

/-- The inverter of `dockOrStop`. -/
def stopInverter : Draft := (Draft.new "Inverter").pushChild (namedAction "stop")

theorem compareTrees_local_stopInverter :
    (dockOrStop.build.preorder.map Node.path).Nodup ∧
    ((dockOrStop.appendAt [1] dockOrStop).build.preorder.map Node.path).Nodup ∧
    (∃ changes,
      compareTrees .all dockOrStop.build
          (dockOrStop.setAttributesAt [1] (OrderedMap.empty.insert "name" "twice")).build =
          .ok changes ∧
        List.Forall₂
          (ReportsEdit .all dockOrStop.build
            (dockOrStop.setAttributesAt [1] (OrderedMap.empty.insert "name" "twice")).build [1])
          [[], [0], [0, 0], [0, 1], [1], [1, 0]] changes) ∧
    ∃ path depth kept,
      (dockOrStop.appendAt [1] dockOrStop).build.at? [1, 1] =
          some (dockOrStop.buildAt path depth) ∧
        compareTrees .all dockOrStop.build (dockOrStop.appendAt [1] dockOrStop).build =
            .ok (kept ++ (dockOrStop.buildAt path depth).preorder.map .added) ∧
          List.Forall₂
            (ReportsUnchanged dockOrStop.build (dockOrStop.appendAt [1] dockOrStop).build)
            [[], [0], [0, 0], [0, 1], [1], [1, 0]] kept := by
  have found : dockOrStop.at? [1] = some stopInverter := rfl
  have distinct : (dockOrStop.build.preorder.map Node.path).Nodup := by decide
  have distinct' : ((dockOrStop.appendAt [1] dockOrStop).build.preorder.map Node.path).Nodup := by
    decide
  obtain ⟨edited, appended⟩ := compareTrees_local .all found
  exact ⟨distinct, distinct', edited _ rfl distinct, (appended dockOrStop distinct').1⟩

end BehaviorDiff
