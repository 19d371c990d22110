import BehaviorDiff.Proofs.Diff.ChangeList
import BehaviorDiff.Proofs.Diff.Content
import BehaviorDiff.Proofs.Tree.Address
import BehaviorDiff.Proofs.Tree.Edit

set_option autoImplicit false

/-!
A leaf that goes from the end of one node's children to the end of another's. Both trees are the
tree without the leaf and the leaf appended somewhere, so no other node has another path, and the
two paths of the leaf are different. If nothing else has its signature, the comparison reports the
leaf as moved, in its place in the old tree, and every other node as unchanged.
-/

namespace BehaviorDiff

section Alone
variable {a b : Node} (same : a.alone = b.alone)

include same

theorem path_eq_of_alone_eq : a.path = b.path := by
  have paths : a.alone.path = b.alone.path := by rw [same]
  exact paths

theorem signature_eq_of_alone_eq : a.signature = b.signature := by
  have signatures : a.alone.signature = b.alone.signature := by rw [same]
  exact signatures

/-- Nodes that differ in nothing but their children are unchanged. -/
theorem compareContent_of_alone_eq (options : CompareOptions) :
    compareContent options a b = .unchanged a b := by
  have content : contentDelta options a b = contentDelta options a.alone b.alone := rfl
  rw [compareContent_eq_unchanged_iff, content, same, isEmpty_contentDelta_iff]
  exact ⟨rfl, rfl, fun _ => .inr rfl⟩

end Alone

theorem Draft.signature_buildAt (draft : Draft) (path : String) (depth : Nat) :
    (draft.buildAt path depth).signature = draft.build.signature := by
  cases draft
  rfl

/-- A tree is another one with a leaf at a place that was free; every other position has the node
that it had, but for the children. -/
structure WithLeaf (rest grown : Node) (place : Position) (leaf : Node) : Prop where
  here : grown.at? place = some leaf
  free : rest.at? place = none
  elsewhere : ∀ other, other ≠ place →
    (grown.at? other).map Node.alone = (rest.at? other).map Node.alone

/-- A leaf that is appended stands behind its siblings, below the path of its parent. -/
theorem Draft.withLeaf_appendAt {rest inner leaf : Draft} {position : Position}
    (found : rest.at? position = some inner) (isLeaf : leaf.children = []) :
    ∃ parent depth,
      rest.build.at? position = some parent ∧
      WithLeaf rest.build (rest.appendAt position leaf).build
        (position ++ [inner.children.length])
        (leaf.buildAt (childPath parent.path inner.children inner.children.length leaf) depth) := by
  obtain ⟨path, depth, before, here, elsewhere⟩ := exists_build_appendAt found leaf
  have free (below : Position) :
      rest.build.at? (position ++ inner.children.length :: below) = none := by
    rw [Node.at?_append, before, Option.bind_some, Node.at?_cons, getElem?_children_buildAt,
      List.getElem?_eq_none (Nat.le_refl _)]
    rfl
  refine ⟨inner.buildAt path depth, depth + 1, before, ?_, free [], fun other apart => ?_⟩
  · rw [here, path_buildAt]
    rfl
  · by_cases inside : position ++ [inner.children.length] <+: other
    · obtain ⟨below, rfl⟩ := inside
      cases below with
      | nil => exact absurd (List.append_nil _) apart
      | cons index below =>
        rw [List.append_assoc, List.singleton_append, here, free, Node.at?_cons,
          getElem?_children_buildAt, isLeaf]
        rfl
    · exact elsewhere other inside

/-- What is reported at a position of the old tree, if all that happened is that the node at one
place went to another. -/
def ReportsMove (old new : Node) (source target position : Position) (change : Change) : Prop :=
  if position = source then
    ∃ before after, old.at? source = some before ∧ new.at? target = some after ∧
      change = .moved before after
  else
    ∃ before after, old.at? position = some before ∧ new.at? position = some after ∧
      change = .unchanged before after

namespace WithLeaf
variable {rest old new : Node} {place place' : Position} {leaf leaf' : Node}

/-- Whatever stands in the tree without the leaf stands there with it, too. -/
theorem exists_grown (newLeaf : WithLeaf rest new place' leaf') {position : Position} {node : Node}
    (found : rest.at? position = some node) :
    position ≠ place' ∧ ∃ after, new.at? position = some after ∧ node.alone = after.alone := by
  have other : position ≠ place' := by
    rintro rfl
    rw [newLeaf.free] at found
    cases found
  have same := newLeaf.elsewhere position other
  rw [found, Option.map_some, Option.map_eq_some_iff] at same
  obtain ⟨after, found', alike⟩ := same
  exact ⟨other, after, found', alike.symm⟩

/-- Everything but the leaf stands in the tree with the leaf elsewhere, at the same position. -/
theorem exists_counterpart (oldLeaf : WithLeaf rest old place leaf)
    (newLeaf : WithLeaf rest new place' leaf') {position : Position} {before : Node}
    (found : old.at? position = some before) (other : position ≠ place) :
    position ≠ place' ∧ ∃ after, new.at? position = some after ∧ before.alone = after.alone := by
  have same := oldLeaf.elsewhere position other
  rw [found, Option.map_some, eq_comm, Option.map_eq_some_iff] at same
  obtain ⟨node, inRest, alike⟩ := same
  obtain ⟨other', after, found', alike'⟩ := newLeaf.exists_grown inRest
  exact ⟨other', after, found', alike.symm.trans alike'⟩

/-- The path of the leaf is vacated if the leaf has another path in the new tree. -/
theorem path_ne_of_mem (oldLeaf : WithLeaf rest old place leaf)
    (newLeaf : WithLeaf rest new place' leaf') (paths : leaf.path ≠ leaf'.path)
    (distinct : (old.preorder.map Node.path).Nodup) {node : Node} (hm : node ∈ new.preorder) :
    node.path ≠ leaf.path := by
  intro same
  obtain ⟨position, found⟩ := Node.mem_preorder_iff.1 hm
  by_cases moved : position = place'
  · subst moved
    obtain rfl := Option.some.inj (found.symm.trans newLeaf.here)
    exact paths same.symm
  · obtain ⟨other, before, found', alike⟩ := newLeaf.exists_counterpart oldLeaf found moved
    have path : before.path = leaf.path := (path_eq_of_alone_eq alike).symm.trans same
    exact other (Node.position_eq_of_path_eq distinct found' oldLeaf.here path)

section Moved
variable (oldLeaf : WithLeaf rest old place leaf) (newLeaf : WithLeaf rest new place' leaf')
  (paths : leaf.path ≠ leaf'.path) (signatures : leaf.signature = leaf'.signature)
  (unique : ∀ position node, old.at? position = some node → node.signature = leaf.signature →
    position = place)
  (oldDistinct : (old.preorder.map Node.path).Nodup)
  (newDistinct : (new.preorder.map Node.path).Nodup)

include oldLeaf newLeaf paths signatures unique oldDistinct newDistinct

theorem relocated : Relocated old.preorder new.preorder leaf leaf' where
  before_mem := Node.mem_preorder_iff.2 ⟨place, oldLeaf.here⟩
  after_mem := Node.mem_preorder_iff.2 ⟨place', newLeaf.here⟩
  vacated := by
    intro known
    obtain ⟨node, hm, same⟩ := List.mem_map.1 known
    exact oldLeaf.path_ne_of_mem newLeaf paths oldDistinct hm same
  fresh := by
    intro known
    obtain ⟨node, hm, same⟩ := List.mem_map.1 known
    exact newLeaf.path_ne_of_mem oldLeaf paths.symm newDistinct hm same
  same_signature := signatures
  only_before := by
    intro node hm same
    obtain ⟨position, found⟩ := Node.mem_preorder_iff.1 hm
    obtain rfl := unique position node found same
    exact Option.some.inj (found.symm.trans oldLeaf.here)
  only_after := by
    intro node hm same
    obtain ⟨position, found⟩ := Node.mem_preorder_iff.1 hm
    by_cases moved : position = place'
    · subst moved
      exact Option.some.inj (found.symm.trans newLeaf.here)
    · obtain ⟨other, before, found', alike⟩ := newLeaf.exists_counterpart oldLeaf found moved
      have signature : before.signature = leaf.signature :=
        (signature_eq_of_alone_eq alike).symm.trans (same.trans signatures.symm)
      exact absurd (unique position before found' signature) other

/-- The comparison reports the leaf as moved and everything else as unchanged. -/
theorem reports (options : CompareOptions) {changes : List Change}
    (compared : compareTrees options old new = .ok changes) :
    List.Forall₂ (ReportsMove old new place place') old.positions changes := by
  obtain ⟨oldIndex, newIndex, moves, ho, hn, relocations, rfl⟩ :=
    exists_settled_of_compareTrees compared
  have moved : Relocated oldIndex.nodes newIndex.nodes leaf leaf' := by
    rw [ho, hn]
    exact oldLeaf.relocated newLeaf paths signatures unique oldDistinct newDistinct
  have report (position : Position) (node : Node) (found : old.at? position = some node) :
      ReportsMove old new place place' position
        (Moves.changeOfOld options newIndex moves node) := by
    rw [ReportsMove]
    split
    · next here =>
      subst here
      obtain rfl := Option.some.inj (found.symm.trans oldLeaf.here)
      exact ⟨node, leaf', found, newLeaf.here, Moves.changeOfOld_of_relocated relocations moved⟩
    · next other =>
      obtain ⟨-, after, found', alike⟩ := oldLeaf.exists_counterpart newLeaf found other
      have matched : newIndex.get? node.path = some after := by
        rw [PathIndex.get?_eq_some_iff, hn]
        exact ⟨Node.mem_preorder_iff.2 ⟨position, found'⟩, (path_eq_of_alone_eq alike).symm⟩
      refine ⟨node, after, found, found', ?_⟩
      rw [Moves.changeOfOld_of_get? options moves matched, compareContent_of_alone_eq alike]
  have none_added : Moves.stayAdded oldIndex newIndex moves = [] := by
    rw [List.eq_nil_iff_forall_not_mem]
    intro node hm
    rw [Moves.mem_stayAdded_iff_not_accountsFor relocations, hn] at hm
    obtain ⟨position, found⟩ := Node.mem_preorder_iff.1 hm.1
    by_cases here : position = place'
    · subst here
      obtain rfl := Option.some.inj (found.symm.trans newLeaf.here)
      exact hm.2 leaf moved.before_mem (hn ▸ .inr moved)
    · obtain ⟨-, before, found', alike⟩ := newLeaf.exists_counterpart oldLeaf found here
      refine hm.2 before ?_ (.inl ⟨hm.1, path_eq_of_alone_eq alike⟩)
      rw [ho]
      exact Node.mem_preorder_iff.2 ⟨position, found'⟩
  rw [Moves.settled, none_added, List.map_nil, List.append_nil, ho, List.forall₂_map_right_iff]
  exact (Node.forall₂_positions old).imp report

end Moved

end WithLeaf

/-- A path below one parent is not a path below another, if both end in the same tag and
identity. -/
theorem Draft.childPath_ne {parent parent' : String} (apart : parent ≠ parent')
    (siblings siblings' : List Draft) (index index' : Nat) (child : Draft) :
    childPath parent siblings index child ≠ childPath parent' siblings' index' child := by
  intro same
  exact apart (path_eq_of_append_pathStep rfl same).1

namespace Draft
variable {root parent goal leaf : Draft} {siblings : List Draft} {source target : Position}

/-- Without its last child a node keeps the other ones. -/
theorem dropLastChild_eq (last : parent.children = siblings ++ [leaf]) :
    parent.dropLastChild = ⟨parent.tag, parent.attributes, siblings⟩ := by
  rw [dropLastChild, last, List.dropLast_concat]

theorem appendAt_modifyAt_dropLastChild (atSource : root.at? source = some parent)
    (last : parent.children = siblings ++ [leaf]) :
    (root.modifyAt source dropLastChild).appendAt source leaf = root := by
  have back : parent.dropLastChild.pushChild leaf = parent := by
    obtain ⟨tag, attributes, children⟩ := parent
    obtain rfl : children = siblings ++ [leaf] := last
    rw [dropLastChild_eq rfl, pushChild]
  exact modifyAt_modifyAt atSource back

theorem at?_modifyAt_dropLastChild (atSource : root.at? source = some parent)
    (last : parent.children = siblings ++ [leaf]) :
    (root.modifyAt source dropLastChild).at? source =
      some ⟨parent.tag, parent.attributes, siblings⟩ := by
  have edited := at?_modifyAt_append root source [] dropLastChild
  rw [List.append_nil, atSource, Option.bind_some, dropLastChild_eq last] at edited
  exact edited

/-- What stands elsewhere keeps its position and its number of children when a leaf at the end of a
row is taken away. -/
theorem exists_at?_modifyAt_dropLastChild (atSource : root.at? source = some parent)
    (last : parent.children = siblings ++ [leaf]) (isLeaf : leaf.children = [])
    (atTarget : root.at? target = some goal) (notSource : target ≠ source)
    (notLeaf : target ≠ source ++ [siblings.length]) :
    ∃ goal', (root.modifyAt source dropLastChild).at? target = some goal' ∧
      goal'.children.length = goal.children.length := by
  by_cases inside : source <+: target
  · obtain ⟨below, rfl⟩ := inside
    refine ⟨goal, ?_, rfl⟩
    rw [at?_append, atSource, Option.bind_some] at atTarget
    rw [at?_modifyAt_append, atSource, Option.bind_some, dropLastChild_eq last]
    cases below with
    | nil => exact absurd (List.append_nil source) notSource
    | cons index below =>
      obtain ⟨child, here, deeper⟩ := at?_cons_eq_some_iff.1 atTarget
      refine at?_cons_eq_some_iff.2 ⟨child, ?_, deeper⟩
      rw [last] at here
      rcases Nat.lt_trichotomy index siblings.length with h | h | h
      · rwa [List.getElem?_append_left h] at here
      · -- At the leaf itself the position ends, and that position is excluded.
        subst h
        obtain rfl : leaf = child := by simpa using here
        cases below with
        | nil => exact absurd rfl notLeaf
        | cons index below =>
          rw [at?_cons_eq_some_iff, isLeaf] at deeper
          obtain ⟨_, absent, -⟩ := deeper
          cases absent
      · have short : (siblings ++ [leaf]).length ≤ index := by
          rw [List.length_append, List.length_singleton]
          omega
        rw [List.getElem?_eq_none short] at here
        cases here
  · have counts := length_children_modifyAt root dropLastChild inside
    rw [atTarget, Option.map_some, Option.map_eq_some_iff] at counts
    exact counts

end Draft

/-- A leaf that goes from the end of one row to the end of another, and shares its signature with no
other node, is reported as moved at its place in the old tree; all else is reported as
unchanged. -/
theorem compareTrees_relocate (options : CompareOptions) {root parent goal leaf : Draft}
    {siblings : List Draft} {source target : Position} (atSource : root.at? source = some parent)
    (last : parent.children = siblings ++ [leaf]) (isLeaf : leaf.children = [])
    (atTarget : root.at? target = some goal) (notSource : target ≠ source)
    (notLeaf : target ≠ source ++ [siblings.length])
    (unique : ∀ position ∈ root.build.positions,
      (root.build.at? position).map Node.signature = some leaf.build.signature →
        position = source ++ [siblings.length])
    (oldDistinct : (root.build.preorder.map Node.path).Nodup)
    (newDistinct : ((root.relocate source target leaf).build.preorder.map Node.path).Nodup) :
    ∃ changes,
      compareTrees options root.build (root.relocate source target leaf).build = .ok changes ∧
        List.Forall₂
          (ReportsMove root.build (root.relocate source target leaf).build
            (source ++ [siblings.length]) (target ++ [goal.children.length]))
          root.build.positions changes := by
  obtain ⟨goal', restTarget, arity⟩ :=
    Draft.exists_at?_modifyAt_dropLastChild atSource last isLeaf atTarget notSource notLeaf
  obtain ⟨above, depth, foundAbove, oldLeaf⟩ :=
    Draft.withLeaf_appendAt (Draft.at?_modifyAt_dropLastChild atSource last) isLeaf
  obtain ⟨above', depth', foundAbove', newLeaf⟩ := Draft.withLeaf_appendAt restTarget isLeaf
  rw [Draft.appendAt_modifyAt_dropLastChild atSource last] at oldLeaf
  rw [← Draft.relocate, arity] at newLeaf
  have paths : above.path ≠ above'.path := by
    intro same
    obtain ⟨-, old, found, alike⟩ := oldLeaf.exists_grown foundAbove
    obtain ⟨-, old', found', alike'⟩ := oldLeaf.exists_grown foundAbove'
    have oldSame : old'.path = old.path :=
      (path_eq_of_alone_eq alike').symm.trans (same.symm.trans (path_eq_of_alone_eq alike))
    exact notSource (Node.position_eq_of_path_eq oldDistinct found' found oldSame)
  obtain ⟨changes, compared⟩ := exists_changes_of_nodup options oldDistinct newDistinct
  refine ⟨changes, compared, ?_⟩
  refine oldLeaf.reports newLeaf ?_ ?_ ?_ oldDistinct newDistinct options compared
  · rw [Draft.path_buildAt, Draft.path_buildAt]
    exact Draft.childPath_ne paths _ _ _ _ _
  · rw [Draft.signature_buildAt, Draft.signature_buildAt]
  · intro position node found same
    refine unique position (Node.mem_positions_iff.2 ⟨node, found⟩) ?_
    rw [found, Option.map_some, same, Draft.signature_buildAt]

/-- An action with a name. -/
def namedAction (name : String) : Draft := (Draft.new "Action").setAttribute "name" name

/-- A fallback that ends in a named action, and an inverter of another one. -/
def dockOrStop : Draft :=
  ((Draft.new "Sequence").pushChild
      (((Draft.new "Fallback").pushChild (Draft.new "Action")).pushChild
        (namedAction "dock"))).pushChild
    ((Draft.new "Inverter").pushChild (namedAction "stop"))

theorem compareTrees_relocate_dock :
    (∀ position ∈ dockOrStop.build.positions,
      (dockOrStop.build.at? position).map Node.signature =
        some (namedAction "dock").build.signature → position = [0, 1]) ∧
    (dockOrStop.build.preorder.map Node.path).Nodup ∧
    ((dockOrStop.relocate [0] [1] (namedAction "dock")).build.preorder.map Node.path).Nodup ∧
    ∃ changes,
      compareTrees .all dockOrStop.build
          (dockOrStop.relocate [0] [1] (namedAction "dock")).build = .ok changes ∧
        List.Forall₂
          (ReportsMove dockOrStop.build
            (dockOrStop.relocate [0] [1] (namedAction "dock")).build [0, 1] [1, 1])
          [[], [0], [0, 0], [0, 1], [1], [1, 0]] changes := by
  have unique : ∀ position ∈ dockOrStop.build.positions,
      (dockOrStop.build.at? position).map Node.signature =
        some (namedAction "dock").build.signature → position = [0, 1] := by decide
  have oldDistinct : (dockOrStop.build.preorder.map Node.path).Nodup := by decide
  have newDistinct :
      ((dockOrStop.relocate [0] [1] (namedAction "dock")).build.preorder.map Node.path).Nodup := by
    decide
  have atSource : dockOrStop.at? [0] =
      some (((Draft.new "Fallback").pushChild (Draft.new "Action")).pushChild
        (namedAction "dock")) := rfl
  have atTarget : dockOrStop.at? [1] =
      some ((Draft.new "Inverter").pushChild (namedAction "stop")) := rfl
  exact ⟨unique, oldDistinct, newDistinct,
    compareTrees_relocate .all atSource rfl rfl atTarget (by decide) (by decide) unique oldDistinct
      newDistinct⟩

end BehaviorDiff
