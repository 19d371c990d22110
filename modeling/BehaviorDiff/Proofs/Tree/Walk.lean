import BehaviorDiff.Proofs.Tree.Order

set_option autoImplicit false

/-!
The walk over a tree, state by state. What a state has still to visit is the pre-orders of the trees
on its stack, the top of the stack first; a step takes the first node off this list and leaves the
rest to the next state. So the nodes that have been visited and those that the stack stands for are
the pre-order of the root at any time, however the stack grows and shrinks, and the stack is empty
behind as many steps as the tree has nodes.
-/

namespace BehaviorDiff

namespace Node

theorem preorderAll_eq_flatMap (nodes : List Node) :
    preorderAll nodes = nodes.flatMap preorder := by
  induction nodes with
  | nil => rfl
  | cons node rest ih => rw [preorderAll, ih, List.flatMap_cons]

mutual

theorem length_preorder : (root : Node) → root.preorder.length = root.size
  | ⟨tag, kind, attributes, children, depth, path⟩ => by
    rw [preorder, size, List.length_cons, length_preorderAll children, Nat.add_comm]

private theorem length_preorderAll :
    (nodes : List Node) → (preorderAll nodes).length = sizeAll nodes
  | [] => rfl
  | child :: rest => by
    rw [preorderAll, sizeAll, List.length_append, length_preorder child, length_preorderAll rest]

end

end Node

namespace Walk

/-- From one state of a walk the nodes are visited, one after another, and another state is left. -/
inductive Visits : Walk → List Node → Walk → Prop
  | nil (walk : Walk) : Visits walk [] walk
  | cons {walk after last : Walk} {node : Node} {nodes : List Node} :
      walk.next? = some (node, after) → Visits after nodes last →
        Visits walk (node :: nodes) last

/-- What is visited and what the stack stands for behind it is what the stack stood for before. -/
theorem Visits.preorderAll_eq {walk last : Walk} {nodes : List Node}
    (visits : Visits walk nodes last) :
    Node.preorderAll walk.pending = nodes ++ Node.preorderAll last.pending := by
  induction visits with
  | nil walk => rfl
  | cons step _ ih => rw [preorderAll_of_next? step, ih, List.cons_append]

theorem exists_visits_of_le {walk : Walk} {count : Nat}
    (left : count ≤ (Node.preorderAll walk.pending).length) :
    ∃ last, Visits walk ((Node.preorderAll walk.pending).take count) last := by
  induction count generalizing walk with
  | zero => exact ⟨walk, .nil walk⟩
  | succ count ih =>
    cases step : walk.next? with
    | none =>
      rw [next?_eq_none_iff.1 step] at left
      exact absurd left (Nat.not_succ_le_zero count)
    | some entry =>
      obtain ⟨node, after⟩ := entry
      have split := preorderAll_of_next? step
      rw [split, List.length_cons] at left
      obtain ⟨last, visits⟩ := ih (Nat.le_of_succ_le_succ left)
      rw [split, List.take_succ_cons]
      exact ⟨last, .cons step visits⟩

theorem next?_eq_none_iff_preorderAll {walk : Walk} :
    walk.next? = none ↔ Node.preorderAll walk.pending = [] := by
  constructor
  · intro done
    rw [next?_eq_none_iff.1 done, Node.preorderAll]
  · intro empty
    cases step : walk.next? with
    | none => rfl
    | some entry =>
      rw [preorderAll_of_next? step] at empty
      cases empty

/-- The walk over a tree visits the node itself and then the pre-order of each child, from first to
last; it comes to every position once, in the order of the positions. It goes on for as many steps
as the tree has nodes and then ends; at every state in between, the pre-orders of the stacked trees,
the top of the stack first, are what is still to be visited. -/
theorem visits_preorder (root : Node) :
    root.nodes = root.preorder ∧
    root.preorder = root :: root.children.flatMap Node.preorder ∧
    root.nodes.length = root.size ∧
    List.Forall₂ (fun position node => root.at? position = some node) root.positions root.nodes ∧
    root.positions.Nodup ∧
    (∀ position, position ∈ root.positions ↔ ∃ node, root.at? position = some node) ∧
    (∀ count, count ≤ root.size → ∃ walk, Visits (start root) (root.nodes.take count) walk) ∧
    ∀ visited walk, Visits (start root) visited walk →
      root.nodes = visited ++ walk.pending.flatMap Node.preorder ∧
      walk.toList = walk.pending.flatMap Node.preorder ∧
      (walk.next? = none ↔ visited.length = root.size) := by
  have whole : Node.preorderAll (start root).pending = root.preorder := List.append_nil _
  have length : root.nodes.length = root.size := by
    rw [Node.nodes_eq_preorder, Node.length_preorder]
  refine ⟨root.nodes_eq_preorder, ?_, length, ?_, root.pairwise_positions.nodup,
    fun _ => Node.mem_positions_iff, fun count bound => ?_, fun visited walk visits => ?_⟩
  · rw [← Node.preorderAll_eq_flatMap]
    exact root.preorder_eq
  · rw [Node.nodes_eq_preorder]
    exact root.forall₂_positions
  · have left : count ≤ (Node.preorderAll (start root).pending).length := by
      rw [whole, Node.length_preorder]
      exact bound
    have goes := exists_visits_of_le left
    rw [whole, ← Node.nodes_eq_preorder] at goes
    exact goes
  · have split := visits.preorderAll_eq
    rw [whole, ← Node.nodes_eq_preorder] at split
    refine ⟨by rw [split, Node.preorderAll_eq_flatMap],
      by rw [toList_eq_preorderAll, Node.preorderAll_eq_flatMap], ?_⟩
    -- What is still to be visited is empty exactly if nothing is missing from the visited nodes.
    rw [next?_eq_none_iff_preorderAll, ← List.length_eq_zero_iff, ← length, split,
      List.length_append]
    omega

example : (((Draft.new "Sequence").pushChild
      ((Draft.new "Retry").pushChild (Draft.new "Dock"))).pushChild (.new "Wait")).build.nodes.map
        Node.tag = ["Sequence", "Retry", "Dock", "Wait"] := by cbv

end Walk

end BehaviorDiff
