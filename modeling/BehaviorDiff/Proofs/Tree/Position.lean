import Mathlib.Data.List.Forall2
import Mathlib.Data.List.Nodup
import BehaviorDiff.Tree.Walk

set_option autoImplicit false

/-!
Places in a tree. A position lists the index of a child for every step down from the root; it says
nothing of tags, identities and paths, so two trees can be compared place by place whatever their
nodes look like. The positions of a tree, listed in pre-order, lead to its nodes in pre-order, and
where no path occurs twice a path has one position.
-/

namespace BehaviorDiff

/-- The index of a child for every step down from a root. -/
abbrev Position := List Nat

/-- The draft at a position, if the position is in the tree. -/
def Draft.at? : Draft → Position → Option Draft
  | draft, [] => some draft
  | draft, index :: below => draft.children[index]?.bind fun child => child.at? below

namespace Node

/-- The node at a position, if the position is in the tree. -/
def at? : Node → Position → Option Node
  | node, [] => some node
  | node, index :: below => node.children[index]?.bind fun child => child.at? below

mutual

/-- The positions of a tree, in pre-order. -/
def positions : Node → List Position
  | ⟨_, _, _, children, _, _⟩ => [] :: positionsFrom 0 children

/-- The positions below a row of siblings, the first of which has the given index. -/
def positionsFrom (index : Nat) : List Node → List Position
  | [] => []
  | child :: rest => (positions child).map (index :: ·) ++ positionsFrom (index + 1) rest

end

/-- A node without its children. -/
def alone (node : Node) : Node := { node with children := [] }

theorem at?_cons (node : Node) (index : Nat) (below : Position) :
    node.at? (index :: below) = node.children[index]?.bind fun child => child.at? below := rfl

theorem at?_cons_eq_some_iff {node found : Node} {index : Nat} {below : Position} :
    node.at? (index :: below) = some found ↔
      ∃ child, node.children[index]? = some child ∧ child.at? below = some found :=
  Option.bind_eq_some_iff

/-- Going down two ways, one after the other. -/
theorem at?_append (node : Node) (above below : Position) :
    node.at? (above ++ below) = (node.at? above).bind fun top => top.at? below := by
  induction above generalizing node with
  | nil => rfl
  | cons index above ih =>
    rw [List.cons_append, at?_cons, at?_cons, Option.bind_assoc]
    congr 1
    funext child
    exact ih child

mutual

/-- The positions lead to the nodes, in pre-order. -/
theorem forall₂_positions :
    (root : Node) →
      List.Forall₂ (fun position node => root.at? position = some node) root.positions root.preorder
  | ⟨tag, kind, attributes, children, depth, path⟩ => by
    rw [positions, preorder, List.forall₂_cons]
    have below :=
      forall₂_positionsFrom ⟨tag, kind, attributes, children, depth, path⟩ [] children rfl
    exact ⟨rfl, below⟩

private theorem forall₂_positionsFrom (parent : Node) :
    (before rest : List Node) → parent.children = before ++ rest →
      List.Forall₂ (fun position node => parent.at? position = some node)
        (positionsFrom before.length rest) (preorderAll rest)
  | _, [], _ => .nil
  | before, child :: rest, split => by
    have here : parent.children[before.length]? = some child := by rw [split]; simp
    have first : List.Forall₂ (fun position node => parent.at? position = some node)
        (child.positions.map (before.length :: ·)) child.preorder := by
      rw [List.forall₂_map_left_iff]
      refine (forall₂_positions child).imp fun position node found => ?_
      rw [at?_cons, here]
      exact found
    have later := forall₂_positionsFrom parent (before ++ [child]) rest (by simp [split])
    rw [List.length_append, List.length_singleton] at later
    rw [positionsFrom, preorderAll]
    exact List.rel_append first later

end

private theorem cons_mem_positionsFrom {nodes : List Node} {index : Nat} {child : Node}
    {below : Position} (here : nodes[index]? = some child) (hm : below ∈ child.positions)
    (first : Nat) : (first + index) :: below ∈ positionsFrom first nodes := by
  induction nodes generalizing index first with
  | nil => simp at here
  | cons node rest ih =>
    rw [positionsFrom, List.mem_append]
    cases index with
    | zero =>
      obtain rfl : node = child := by simpa using here
      exact .inl (List.mem_map_of_mem hm)
    | succ index =>
      have later := ih (by simpa using here) (first + 1)
      have shift : first + 1 + index = first + (index + 1) := by omega
      rw [shift] at later
      exact .inr later

private theorem mem_positions_of_at? {root node : Node} {position : Position}
    (found : root.at? position = some node) : position ∈ root.positions := by
  induction position generalizing root with
  | nil =>
    cases root
    exact List.mem_cons_self
  | cons index below ih =>
    obtain ⟨child, here, found⟩ := at?_cons_eq_some_iff.1 found
    have later := cons_mem_positionsFrom here (ih found) 0
    rw [Nat.zero_add] at later
    cases root
    exact List.mem_cons_of_mem _ later

/-- The list of positions and the list of nodes run in step. -/
theorem at?_eq_some_iff {root node : Node} {position : Position} :
    root.at? position = some node ↔
      ∃ index : Nat,
        root.positions[index]? = some position ∧ root.preorder[index]? = some node := by
  have placed := forall₂_positions root
  constructor
  · intro found
    obtain ⟨index, bound, rfl⟩ := List.mem_iff_getElem.1 (mem_positions_of_at? found)
    have bound' : index < root.preorder.length := placed.length_eq ▸ bound
    have here := placed.get bound bound'
    rw [List.get_eq_getElem, List.get_eq_getElem, found] at here
    rw [Option.some.inj here]
    exact ⟨index, List.getElem?_eq_getElem bound, List.getElem?_eq_getElem bound'⟩
  · rintro ⟨index, here, there⟩
    obtain ⟨bound, rfl⟩ := List.getElem?_eq_some_iff.1 here
    obtain ⟨bound', rfl⟩ := List.getElem?_eq_some_iff.1 there
    exact placed.get bound bound'

/-- The positions that are listed are those at which there is a node. -/
theorem mem_positions_iff {root : Node} {position : Position} :
    position ∈ root.positions ↔ ∃ node, root.at? position = some node := by
  constructor
  · intro hm
    obtain ⟨index, bound, rfl⟩ := List.mem_iff_getElem.1 hm
    have placed := forall₂_positions root
    have bound' : index < root.preorder.length := placed.length_eq ▸ bound
    exact ⟨root.preorder[index], placed.get bound bound'⟩
  · rintro ⟨node, found⟩
    exact mem_positions_of_at? found

/-- The nodes of a tree are those at its positions. -/
theorem mem_preorder_iff {root node : Node} :
    node ∈ root.preorder ↔ ∃ position, root.at? position = some node := by
  constructor
  · intro hm
    obtain ⟨index, there⟩ := List.mem_iff_getElem?.1 hm
    have bound : index < root.positions.length := by
      rw [(forall₂_positions root).length_eq]
      exact (List.getElem?_eq_some_iff.1 there).1
    exact ⟨root.positions[index],
      at?_eq_some_iff.2 ⟨index, List.getElem?_eq_getElem bound, there⟩⟩
  · rintro ⟨position, found⟩
    obtain ⟨index, -, there⟩ := at?_eq_some_iff.1 found
    exact List.mem_of_getElem? there

theorem self_mem_preorder (node : Node) : node ∈ node.preorder := mem_preorder_iff.2 ⟨[], rfl⟩

/-- The nodes of a tree inside another are nodes of the other. -/
theorem mem_preorder_trans {root inner node : Node} (hi : inner ∈ root.preorder)
    (hm : node ∈ inner.preorder) : node ∈ root.preorder := by
  obtain ⟨above, found⟩ := mem_preorder_iff.1 hi
  obtain ⟨below, found'⟩ := mem_preorder_iff.1 hm
  refine mem_preorder_iff.2 ⟨above ++ below, ?_⟩
  rw [at?_append, found]
  exact found'

theorem mem_preorder_of_getElem? {parent child : Node} {index : Nat}
    (here : parent.children[index]? = some child) : child ∈ parent.preorder :=
  mem_preorder_iff.2 ⟨[index], at?_cons_eq_some_iff.2 ⟨child, here, rfl⟩⟩

/-- The nodes of a tree are its root and the nodes below the children of the root. -/
theorem mem_preorder_iff_eq_or_below {root node : Node} :
    node ∈ root.preorder ↔
      node = root ∨ ∃ (index : Nat) (child : Node),
        root.children[index]? = some child ∧ node ∈ child.preorder := by
  constructor
  · intro hm
    obtain ⟨position, found⟩ := mem_preorder_iff.1 hm
    cases position with
    | nil => exact .inl (Option.some.inj found).symm
    | cons index below =>
      obtain ⟨child, here, found⟩ := at?_cons_eq_some_iff.1 found
      exact .inr ⟨index, child, here, mem_preorder_iff.2 ⟨below, found⟩⟩
  · rintro (rfl | ⟨index, child, here, hm⟩)
    · exact self_mem_preorder node
    · exact mem_preorder_trans (mem_preorder_of_getElem? here) hm

/-- A node of a tree is its root, or a child of another node. -/
theorem eq_root_or_exists_parent {root node : Node} (hm : node ∈ root.preorder) :
    node = root ∨ ∃ parent ∈ root.preorder, ∃ index : Nat, parent.children[index]? = some node := by
  obtain ⟨position, found⟩ := mem_preorder_iff.1 hm
  rcases List.eq_nil_or_concat position with rfl | ⟨above, index, rfl⟩
  · exact .inl (Option.some.inj found).symm
  · rw [List.concat_eq_append, at?_append] at found
    obtain ⟨parent, above, found⟩ := Option.bind_eq_some_iff.1 found
    obtain ⟨child, here, found⟩ := at?_cons_eq_some_iff.1 found
    obtain rfl : child = node := Option.some.inj found
    exact .inr ⟨parent, mem_preorder_iff.2 ⟨_, above⟩, index, here⟩

/-- What holds of a node if it holds of its children holds of every node. -/
@[elab_as_elim]
theorem inductionOnChildren {motive : Node → Prop}
    (node : ∀ parent : Node, (∀ child ∈ parent.children, motive child) → motive parent) :
    (root : Node) → motive root
  | ⟨tag, kind, attributes, children, depth, path⟩ =>
    node ⟨tag, kind, attributes, children, depth, path⟩ fun child _ =>
      inductionOnChildren node child

/-- Where no path occurs twice, a path has one position. -/
theorem position_eq_of_path_eq {root : Node} (distinct : (root.preorder.map path).Nodup)
    {a b : Node} {position position' : Position} (found : root.at? position = some a)
    (found' : root.at? position' = some b) (same : a.path = b.path) : position = position' := by
  obtain ⟨index, here, there⟩ := at?_eq_some_iff.1 found
  obtain ⟨index', here', there'⟩ := at?_eq_some_iff.1 found'
  have bound : index < (root.preorder.map path).length := by
    rw [List.length_map]
    exact (List.getElem?_eq_some_iff.1 there).1
  have paths : (root.preorder.map path)[index]? = (root.preorder.map path)[index']? := by
    rw [List.getElem?_map, List.getElem?_map, there, there', Option.map_some, Option.map_some, same]
  obtain rfl : index = index' := (List.getElem?_inj bound distinct).1 paths
  exact Option.some.inj (here.symm.trans here')

end Node

end BehaviorDiff
