import BehaviorDiff.Diff.Compare

set_option autoImplicit false

/-!
What a comparison finds at each path. A path index holds the nodes of its tree in pre-order, and a
look-up by path names one node at most. A comparison succeeds exactly on two trees that have
indexes; before moves are looked for, the paths of one tree alone are its removed or added ones.
-/

namespace BehaviorDiff

/-- If no key occurs twice, a search by key finds the one item that has it. -/
theorem find?_eq_some_iff_of_nodup_key {α : Type} {key : α → String} {items : List α}
    (nodup : (items.map key).Nodup) {text : String} {item : α} :
    items.find? (fun other => key other == text) = some item ↔ item ∈ items ∧ key item = text := by
  induction items with
  | nil => simp
  | cons first rest ih =>
    rw [List.map_cons, List.nodup_cons] at nodup
    rw [List.find?_cons, List.mem_cons]
    by_cases h : key first = text
    · have absent : ∀ other ∈ rest, key other ≠ text := fun other ho e =>
        nodup.1 (by rw [h, ← e]; exact List.mem_map_of_mem ho)
      simp only [h, beq_self_eq_true, Option.some.injEq]
      constructor
      · rintro rfl
        exact ⟨Or.inl rfl, h⟩
      · rintro ⟨rfl | hm, hp⟩
        · rfl
        · exact absurd hp (absent item hm)
    · have hb : (key first == text) = false := beq_eq_false_iff_ne.2 h
      rw [hb, ih nodup.2]
      constructor
      · rintro ⟨hm, hp⟩
        exact ⟨Or.inr hm, hp⟩
      · rintro ⟨rfl | hm, hp⟩
        · exact absurd hp h
        · exact ⟨hm, hp⟩

namespace PathIndex

theorem ext {a b : PathIndex} (h : a.nodes = b.nodes) : a = b := by
  cases a
  cases b
  cases h
  rfl

theorem nodes_nodup (index : PathIndex) : index.nodes.Nodup := by
  have distinct := List.pairwise_map.1 index.nodup
  exact distinct.imp fun h e => h (congrArg Node.path e)

/-- A tree has an index exactly if its paths are distinct, and then it is the pre-order. -/
theorem ofTree_eq_ok_iff {side : Side} {root : Node} {index : PathIndex} :
    ofTree side root = .ok index ↔ index.nodes = root.preorder := by
  have spec := firstRepeated?_eq_none_iff (root.nodes.map Node.path) []
  rw [← Node.nodes_eq_preorder]
  unfold ofTree
  split
  · next path found =>
    constructor
    · intro h
      cases h
    · intro h
      have distinct := index.nodup
      rw [h] at distinct
      rw [spec.2 ⟨distinct, fun _ _ => List.not_mem_nil⟩] at found
      cases found
  · next fresh =>
    rw [Except.ok.injEq]
    constructor
    · intro h
      rw [← h]
    · intro h
      exact ext h.symm

theorem get?_eq_some_iff {index : PathIndex} {path : String} {node : Node} :
    index.get? path = some node ↔ node ∈ index.nodes ∧ node.path = path :=
  find?_eq_some_iff_of_nodup_key index.nodup

theorem eq_of_path_eq {index : PathIndex} {a b : Node} (ha : a ∈ index.nodes)
    (hb : b ∈ index.nodes) (h : a.path = b.path) : a = b := by
  have found : index.get? a.path = some a := get?_eq_some_iff.2 ⟨ha, rfl⟩
  rw [get?_eq_some_iff.2 ⟨hb, h.symm⟩] at found
  exact (Option.some.inj found).symm

theorem get?_eq_none_iff {index : PathIndex} {path : String} :
    index.get? path = none ↔ path ∉ index.nodes.map Node.path := by
  rw [get?, List.find?_eq_none, List.mem_map]
  simp only [beq_iff_eq, not_exists, not_and]

theorem contains_iff {index : PathIndex} {path : String} :
    index.contains path = true ↔ path ∈ index.nodes.map Node.path := by
  rw [contains, Option.isSome_iff_ne_none, ne_eq, get?_eq_none_iff, Classical.not_not]

end PathIndex

/-- A comparison succeeds exactly if both trees have indexes. -/
theorem compareTrees_eq_ok_iff {options : CompareOptions} {old new : Node}
    {changes : List Change} :
    compareTrees options old new = .ok changes ↔
      ∃ oldIndex newIndex : PathIndex,
        oldIndex.nodes = old.preorder ∧ newIndex.nodes = new.preorder ∧
          Moves.resolve oldIndex newIndex (positionalChanges options oldIndex newIndex) =
            changes := by
  unfold compareTrees
  constructor
  · intro h
    cases ho : PathIndex.ofTree .old old with
    | error e => simp [ho, bind, Except.bind] at h
    | ok oldIndex =>
      cases hn : PathIndex.ofTree .new new with
      | error e => simp [ho, hn, bind, Except.bind] at h
      | ok newIndex =>
        simp only [ho, hn, bind, Except.bind, pure, Except.pure, Except.ok.injEq] at h
        exact ⟨oldIndex, newIndex, PathIndex.ofTree_eq_ok_iff.1 ho,
          PathIndex.ofTree_eq_ok_iff.1 hn, h⟩
  · rintro ⟨oldIndex, newIndex, ho, hn, h⟩
    rw [PathIndex.ofTree_eq_ok_iff.2 ho, PathIndex.ofTree_eq_ok_iff.2 hn, ← h]
    rfl

/-- Trees without a repeated path have indexes. -/
theorem exists_index_of_nodup {root : Node} (distinct : (root.preorder.map Node.path).Nodup) :
    ∃ index : PathIndex, index.nodes = root.preorder :=
  ⟨⟨root.preorder, distinct⟩, rfl⟩

/-- Trees in which no path occurs twice can be compared. -/
theorem exists_changes_of_nodup (options : CompareOptions) {old new : Node}
    (oldDistinct : (old.preorder.map Node.path).Nodup)
    (newDistinct : (new.preorder.map Node.path).Nodup) :
    ∃ changes, compareTrees options old new = .ok changes := by
  obtain ⟨oldIndex, ho⟩ := exists_index_of_nodup oldDistinct
  obtain ⟨newIndex, hn⟩ := exists_index_of_nodup newDistinct
  exact ⟨_, compareTrees_eq_ok_iff.2 ⟨oldIndex, newIndex, ho, hn, rfl⟩⟩

theorem compareContent_cases (options : CompareOptions) (old new : Node) :
    (compareContent options old new = .unchanged old new ∧
        (contentDelta options old new).isEmpty = true) ∨
      compareContent options old new = .modified old new (contentDelta options old new) := by
  unfold compareContent
  by_cases h : (contentDelta options old new).isEmpty = true
  · exact Or.inl ⟨if_pos h, h⟩
  · exact Or.inr (if_neg h)

@[simp] theorem old?_compareContent (options : CompareOptions) (old new : Node) :
    (compareContent options old new).old? = some old := by
  rcases compareContent_cases options old new with ⟨h, -⟩ | h <;> rw [h] <;> rfl

@[simp] theorem new?_compareContent (options : CompareOptions) (old new : Node) :
    (compareContent options old new).new? = some new := by
  rcases compareContent_cases options old new with ⟨h, -⟩ | h <;> rw [h] <;> rfl

namespace Moves

/-- The change at a node of the old tree, once the moves are known. -/
def changeOfOld (options : CompareOptions) (new : PathIndex) (moves : List Move) (node : Node) :
    Change :=
  match new.get? node.path with
  | some other => compareContent options node other
  | none =>
    match moves.find? fun move => move.old.path == node.path with
    | some move => .moved node move.new
    | none => .removed node

theorem changeOfOld_of_get? (options : CompareOptions) (moves : List Move) {new : PathIndex}
    {node other : Node} (found : new.get? node.path = some other) :
    changeOfOld options new moves node = compareContent options node other := by
  simp only [changeOfOld, found]

/-- A node of the old tree is matched, moved or removed. -/
theorem changeOfOld_cases (options : CompareOptions) (new : PathIndex) (moves : List Move)
    (node : Node) :
    (∃ other, new.get? node.path = some other ∧
        changeOfOld options new moves node = compareContent options node other) ∨
      (∃ move, new.get? node.path = none ∧
        moves.find? (fun move => move.old.path == node.path) = some move ∧
        changeOfOld options new moves node = .moved node move.new) ∨
      (new.get? node.path = none ∧
        moves.find? (fun move => move.old.path == node.path) = none ∧
        changeOfOld options new moves node = .removed node) := by
  unfold changeOfOld
  cases new.get? node.path with
  | some other => exact Or.inl ⟨other, rfl, rfl⟩
  | none =>
    cases moves.find? fun move => move.old.path == node.path with
    | some move => exact Or.inr (Or.inl ⟨move, rfl, rfl, rfl⟩)
    | none => exact Or.inr (Or.inr ⟨rfl, rfl, rfl⟩)

theorem old?_changeOfOld (options : CompareOptions) (new : PathIndex) (moves : List Move)
    (node : Node) : (changeOfOld options new moves node).old? = some node := by
  rcases changeOfOld_cases options new moves node with ⟨other, -, h⟩ | ⟨move, -, -, h⟩ | ⟨-, -, h⟩
  · rw [h, old?_compareContent]
  · rw [h]
    rfl
  · rw [h]
    rfl

theorem changeOfOld_eq_removed_iff {options : CompareOptions} {new : PathIndex}
    {moves : List Move} {node : Node} :
    changeOfOld options new moves node = .removed node ↔
      new.get? node.path = none ∧
        moves.find? (fun move => move.old.path == node.path) = none := by
  rcases changeOfOld_cases options new moves node with
    ⟨other, found, h⟩ | ⟨move, found, moved, h⟩ | ⟨found, moved, h⟩
  · rcases compareContent_cases options node other with ⟨h', -⟩ | h' <;> simp [h, h', found]
  · simp [h, moved]
  · simp [h, found, moved]

theorem changeOfOld_eq_moved_iff {options : CompareOptions} {new : PathIndex}
    {moves : List Move} {node after : Node} :
    changeOfOld options new moves node = .moved node after ↔
      new.get? node.path = none ∧
        ∃ move, moves.find? (fun move => move.old.path == node.path) = some move ∧
          move.new = after := by
  rcases changeOfOld_cases options new moves node with
    ⟨other, found, h⟩ | ⟨move, found, moved, h⟩ | ⟨found, moved, h⟩
  · rcases compareContent_cases options node other with ⟨h', -⟩ | h' <;> simp [h, h', found]
  · simp [h, found, moved]
  · simp [h, moved]

/-- The nodes of the new tree that stay added, once the moves are known. -/
def stayAdded (old new : PathIndex) (moves : List Move) : List Node :=
  new.nodes.filter fun node =>
    !old.contains node.path && !moves.any fun move => move.new.path == node.path

/-- The changes of two trees, once the moves are known: every node of the old tree in its place,
then the nodes that stay added. -/
def settled (options : CompareOptions) (old new : PathIndex) (moves : List Move) : List Change :=
  old.nodes.map (changeOfOld options new moves) ++ (stayAdded old new moves).map .added

/-- Before moves are looked for, the changes are those of no moves at all. -/
theorem positionalChanges_eq_settled (options : CompareOptions) (old new : PathIndex) :
    positionalChanges options old new = settled options old new [] := by
  unfold positionalChanges settled
  congr 2
  simp [stayAdded]

private theorem apply_append (moves : List Move) (a b : List Change) :
    apply moves (a ++ b) = apply moves a ++ apply moves b :=
  List.filterMap_append

private theorem apply_matched (options : CompareOptions) (moves : List Move) (old new : Node)
    (rest : List Change) :
    apply moves (compareContent options old new :: rest) =
      compareContent options old new :: apply moves rest := by
  rcases compareContent_cases options old new with ⟨h, -⟩ | h <;> rw [h] <;> rfl

private theorem apply_old_side (options : CompareOptions) (new : PathIndex) (moves : List Move)
    (nodes : List Node) :
    apply moves (nodes.map (changeOfOld options new [])) =
      nodes.map (changeOfOld options new moves) := by
  induction nodes with
  | nil => rfl
  | cons node rest ih =>
    rw [List.map_cons, List.map_cons]
    cases found : new.get? node.path with
    | some other =>
      have here (moves : List Move) :
          changeOfOld options new moves node = compareContent options node other := by
        simp only [changeOfOld, found]
      rw [here, here, apply_matched, ih]
    | none =>
      rw [← ih]
      simp only [changeOfOld, found, apply, List.filterMap_cons, List.find?_nil]
      cases moves.find? fun move => move.old.path == node.path with
      | some move => rfl
      | none => rfl

private theorem apply_new_side (moves : List Move) (nodes : List Node) :
    apply moves (nodes.map .added) =
      (nodes.filter fun node => !moves.any fun move => move.new.path == node.path).map
        .added := by
  induction nodes with
  | nil => rfl
  | cons node rest ih =>
    simp only [apply] at ih
    simp only [apply, List.map_cons, List.filterMap_cons, List.filter_cons]
    cases moves.any fun move => move.new.path == node.path with
    | true => simpa only [Bool.not_true, Bool.false_eq_true, if_true, if_false] using ih
    | false =>
      simpa only [Bool.not_false, Bool.false_eq_true, if_true, if_false, List.map_cons] using
        congrArg (Change.added node :: ·) ih

/-- Joining removals with additions settles the changes. -/
theorem apply_positionalChanges (options : CompareOptions) (old new : PathIndex)
    (moves : List Move) :
    apply moves (positionalChanges options old new) = settled options old new moves := by
  rw [positionalChanges_eq_settled, settled, apply_append, apply_old_side, apply_new_side]
  unfold settled
  congr 2
  simp [stayAdded, List.filter_filter, Bool.and_comm]

theorem mem_stayAdded_iff {old new : PathIndex} {moves : List Move} {node : Node} :
    node ∈ stayAdded old new moves ↔
      node ∈ new.nodes ∧ node.path ∉ old.nodes.map Node.path ∧
        ∀ move ∈ moves, move.new.path ≠ node.path := by
  rw [← PathIndex.contains_iff]
  simp [stayAdded]

/-- Every settled change stands at its old node, or is an addition. -/
theorem mem_settled_iff {options : CompareOptions} {old new : PathIndex} {moves : List Move}
    {change : Change} :
    change ∈ settled options old new moves ↔
      (∃ node, change.old? = some node ∧ node ∈ old.nodes ∧
        changeOfOld options new moves node = change) ∨
      ∃ node, node ∈ stayAdded old new moves ∧ .added node = change := by
  rw [settled, List.mem_append, List.mem_map, List.mem_map]
  refine or_congr_left ⟨?_, ?_⟩
  · rintro ⟨node, hm, rfl⟩
    exact ⟨node, old?_changeOfOld options new moves node, hm, rfl⟩
  · rintro ⟨node, -, hm, h⟩
    exact ⟨node, hm, h⟩

theorem removed_mem_settled_iff {options : CompareOptions} {old new : PathIndex}
    {moves : List Move} {node : Node} :
    .removed node ∈ settled options old new moves ↔
      node ∈ old.nodes ∧ node.path ∉ new.nodes.map Node.path ∧
        ∀ move ∈ moves, move.old.path ≠ node.path := by
  have free : moves.find? (fun move => move.old.path == node.path) = none ↔
      ∀ move ∈ moves, move.old.path ≠ node.path := by simp
  rw [mem_settled_iff, ← PathIndex.get?_eq_none_iff, ← free]
  simp [Change.old?, changeOfOld_eq_removed_iff]

theorem added_mem_settled_iff {options : CompareOptions} {old new : PathIndex}
    {moves : List Move} {node : Node} :
    .added node ∈ settled options old new moves ↔ node ∈ stayAdded old new moves := by
  rw [mem_settled_iff]
  simp [Change.old?]

theorem moved_mem_settled_iff {options : CompareOptions} {old new : PathIndex}
    {moves : List Move} {before after : Node} :
    .moved before after ∈ settled options old new moves ↔
      before ∈ old.nodes ∧ before.path ∉ new.nodes.map Node.path ∧
        ∃ move, moves.find? (fun move => move.old.path == before.path) = some move ∧
          move.new = after := by
  rw [mem_settled_iff, ← PathIndex.get?_eq_none_iff]
  simp [Change.old?, changeOfOld_eq_moved_iff]

theorem mem_removedPaths_iff {changes : List Change} {path : String} :
    path ∈ removedPaths changes ↔ ∃ node, .removed node ∈ changes ∧ node.path = path := by
  unfold removedPaths
  rw [List.mem_filterMap]
  constructor
  · rintro ⟨change, hm, h⟩
    cases change with
    | removed node => exact ⟨node, hm, Option.some.inj h⟩
    | _ => cases h
  · rintro ⟨node, hm, rfl⟩
    exact ⟨.removed node, hm, rfl⟩

theorem mem_addedPaths_iff {changes : List Change} {path : String} :
    path ∈ addedPaths changes ↔ ∃ node, .added node ∈ changes ∧ node.path = path := by
  unfold addedPaths
  rw [List.mem_filterMap]
  constructor
  · rintro ⟨change, hm, h⟩
    cases change with
    | added node => exact ⟨node, hm, Option.some.inj h⟩
    | _ => cases h
  · rintro ⟨node, hm, rfl⟩
    exact ⟨.added node, hm, rfl⟩

/-- The removed paths are those that only the old tree has. -/
theorem mem_removedPaths_positionalChanges {options : CompareOptions} {old new : PathIndex}
    {path : String} :
    path ∈ removedPaths (positionalChanges options old new) ↔
      path ∈ old.nodes.map Node.path ∧ path ∉ new.nodes.map Node.path := by
  rw [mem_removedPaths_iff, positionalChanges_eq_settled, List.mem_map]
  constructor
  · rintro ⟨node, hm, rfl⟩
    obtain ⟨ho, hn, -⟩ := removed_mem_settled_iff.1 hm
    exact ⟨⟨node, ho, rfl⟩, hn⟩
  · rintro ⟨⟨node, ho, rfl⟩, hn⟩
    exact ⟨node, removed_mem_settled_iff.2 ⟨ho, hn, by simp⟩, rfl⟩

/-- The added paths are those that only the new tree has. -/
theorem mem_addedPaths_positionalChanges {options : CompareOptions} {old new : PathIndex}
    {path : String} :
    path ∈ addedPaths (positionalChanges options old new) ↔
      path ∈ new.nodes.map Node.path ∧ path ∉ old.nodes.map Node.path := by
  rw [mem_addedPaths_iff, positionalChanges_eq_settled, List.mem_map]
  constructor
  · rintro ⟨node, hm, rfl⟩
    obtain ⟨hn, ho, -⟩ := mem_stayAdded_iff.1 (added_mem_settled_iff.1 hm)
    exact ⟨⟨node, hn, rfl⟩, ho⟩
  · rintro ⟨⟨node, hn, rfl⟩, ho⟩
    exact ⟨node, added_mem_settled_iff.2 (mem_stayAdded_iff.2 ⟨hn, ho, by simp⟩), rfl⟩

end Moves

end BehaviorDiff
