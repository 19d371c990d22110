import Mathlib.Data.List.Lex
import Mathlib.Data.List.Sort
import BehaviorDiff.Proofs.Tree.Position

set_option autoImplicit false

/-!
Pre-order as an order of positions. Where a walk comes first is read off the indices: a position
stands before those below it and before those behind an earlier sibling, which is the lexicographic
order. So the positions of a tree are sorted and a tree has one list of nodes for what stands at
each position; the nodes below a position are the pre-order of the tree that stands there.
-/

namespace BehaviorDiff.Node

mutual

/-- The positions of a tree are sorted. -/
theorem pairwise_positions : (root : Node) → root.positions.Pairwise (· < ·)
  | ⟨tag, kind, attributes, children, depth, path⟩ => by
    rw [positions, List.pairwise_cons]
    refine ⟨fun position hm => ?_, pairwise_positionsFrom 0 children⟩
    obtain ⟨index, below, rfl, -⟩ := exists_cons_of_mem_positionsFrom 0 children hm
    exact List.nil_lt_cons index below

private theorem pairwise_positionsFrom :
    (index : Nat) → (nodes : List Node) → (positionsFrom index nodes).Pairwise (· < ·)
  | _, [] => .nil
  | index, child :: rest => by
    rw [positionsFrom, List.pairwise_append, List.pairwise_map]
    refine ⟨?_, pairwise_positionsFrom (index + 1) rest, ?_⟩
    · exact (pairwise_positions child).imp fun before =>
        List.cons_lt_cons_iff.2 (.inr ⟨rfl, before⟩)
    · intro position hm other ho
      obtain ⟨below, -, rfl⟩ := List.mem_map.1 hm
      obtain ⟨index', below', rfl, later⟩ := exists_cons_of_mem_positionsFrom (index + 1) rest ho
      exact List.cons_lt_cons_iff.2 (.inl later)

private theorem exists_cons_of_mem_positionsFrom :
    (first : Nat) → (nodes : List Node) → {position : Position} →
      position ∈ positionsFrom first nodes →
        ∃ index below, position = index :: below ∧ first ≤ index
  | first, child :: rest, position, hm => by
    rw [positionsFrom, List.mem_append] at hm
    rcases hm with hm | hm
    · obtain ⟨below, -, rfl⟩ := List.mem_map.1 hm
      exact ⟨first, below, rfl, Nat.le_refl first⟩
    · obtain ⟨index, below, rfl, later⟩ := exists_cons_of_mem_positionsFrom (first + 1) rest hm
      exact ⟨index, below, rfl, Nat.le_of_succ_le later⟩

end

/-- What is seen at the positions, in order, is what is seen in the pre-order. -/
theorem map_positions {α : Type} (root : Node) (view : Node → α) :
    (root.positions.map fun position => (root.at? position).map view) =
      (root.preorder.map view).map some := by
  rw [List.map_map, ← List.forall₂_eq_eq_eq, List.forall₂_map_left_iff, List.forall₂_map_right_iff]
  refine (forall₂_positions root).imp fun position node found => ?_
  rw [found]
  rfl

/-- What is seen at each position decides what is seen in the pre-order. -/
theorem map_preorder_eq_of_at? {α : Type} {a b : Node} {view : Node → α}
    (same : ∀ position, (a.at? position).map view = (b.at? position).map view) :
    a.preorder.map view = b.preorder.map view := by
  have known (position : Position) : position ∈ a.positions ↔ position ∈ b.positions := by
    have found := congrArg Option.isSome (same position)
    rw [Option.isSome_map, Option.isSome_map] at found
    rw [mem_positions_iff, mem_positions_iff, ← Option.isSome_iff_exists,
      ← Option.isSome_iff_exists, found]
  have positions : a.positions = b.positions :=
    (pairwise_positions a).eq_of_mem_iff (pairwise_positions b) known
  have views : (a.preorder.map view).map some = (b.preorder.map view).map some := by
    rw [← map_positions, ← map_positions, positions]
    exact List.map_congr_left fun position _ => same position
  exact List.map_injective_iff.2 (Option.some_injective α) views

/-- No path occurs twice exactly if a path has one position. -/
theorem nodup_paths_iff_of_at? {root : Node} :
    (root.preorder.map path).Nodup ↔
      ∀ position position' a b, root.at? position = some a → root.at? position' = some b →
        a.path = b.path → position = position' := by
  constructor
  · exact fun distinct position position' a b found found' same =>
      position_eq_of_path_eq distinct found found' same
  · intro unique
    rw [← List.nodup_map_iff (Option.some_injective String), ← map_positions]
    refine (pairwise_positions root).nodup.map_on fun position hm position' hm' same => ?_
    obtain ⟨a, found⟩ := mem_positions_iff.1 hm
    obtain ⟨b, found'⟩ := mem_positions_iff.1 hm'
    rw [found, found', Option.map_some, Option.map_some, Option.some.injEq] at same
    exact unique position position' a b found found' same

/-- A position stands before every one that extends it. -/
theorem lt_append (position : Position) {below : Position} (deeper : below ≠ []) :
    position < position ++ below := by
  induction position with
  | nil =>
    obtain ⟨index, rest, rfl⟩ := List.exists_cons_of_ne_nil deeper
    exact List.nil_lt_cons index rest
  | cons index above ih => exact List.cons_lt_cons_iff.2 (.inr ⟨rfl, ih⟩)

theorem append_lt_append_iff (above : Position) {a b : Position} :
    above ++ a < above ++ b ↔ a < b := by
  induction above with
  | nil => rfl
  | cons index above ih =>
    rw [List.cons_append, List.cons_append, List.cons_lt_cons_iff]
    simpa using ih

/-- A position that stands before one of the first positions is one of them, too. -/
theorem mem_of_lt_of_positions_eq {root : Node} {before rest : List Position}
    (split : root.positions = before ++ rest) {position other : Position} (hm : position ∈ before)
    (known : other ∈ root.positions) (earlier : other < position) : other ∈ before := by
  have sorted := pairwise_positions root
  rw [split, List.pairwise_append] at sorted
  rw [split, List.mem_append] at known
  refine known.resolve_right fun later => ?_
  exact lt_asymm earlier (sorted.2.2 position hm other later)

/-- The positions below one of them are the positions of the tree that stands there. -/
theorem filter_positions {root inner : Node} {place : Position}
    (found : root.at? place = some inner) :
    (root.positions.filter fun position => place.isPrefixOf position) =
      inner.positions.map (place ++ ·) := by
  have sorted : (inner.positions.map (place ++ ·)).Pairwise (· < ·) := by
    rw [List.pairwise_map]
    exact (pairwise_positions inner).imp (append_lt_append_iff place).2
  refine ((pairwise_positions root).filter _).eq_of_mem_iff sorted fun position => ?_
  have inside (below : Position) :
      place ++ below ∈ root.positions ↔ below ∈ inner.positions := by
    rw [mem_positions_iff, mem_positions_iff, at?_append, found]
    rfl
  rw [List.mem_filter, List.isPrefixOf_iff_prefix, List.mem_map]
  constructor
  · rintro ⟨hm, below, rfl⟩
    exact ⟨below, (inside below).1 hm, rfl⟩
  · rintro ⟨below, hm, rfl⟩
    exact ⟨(inside below).2 hm, below, rfl⟩

/-- The nodes that stand at a position or below, in pre-order, are those of the tree there. -/
theorem filter_preorder {root inner : Node} {place : Position}
    (found : root.at? place = some inner) {keep : Node → Bool}
    (below : ∀ position node, root.at? position = some node →
      (keep node = true ↔ place <+: position)) :
    root.preorder.filter keep = inner.preorder := by
  have kept : List.Forall₂ (fun position node => root.at? position = some node)
      (inner.positions.map (place ++ ·)) (root.preorder.filter keep) := by
    rw [← filter_positions found]
    refine List.rel_filter (fun position node here => ?_) (forall₂_positions root)
    exact List.isPrefixOf_iff_prefix.trans (below position node here).symm
  have inside : List.Forall₂ (fun position node => root.at? position = some node)
      (inner.positions.map (place ++ ·)) inner.preorder := by
    rw [List.forall₂_map_left_iff]
    refine (forall₂_positions inner).imp fun position node here => ?_
    rw [at?_append, found]
    exact here
  have unique : Relator.RightUnique fun (position : Position) (node : Node) =>
      root.at? position = some node :=
    fun position node node' here here' => Option.some.inj (here.symm.trans here')
  exact List.right_unique_forall₂' unique kept inside

end BehaviorDiff.Node
