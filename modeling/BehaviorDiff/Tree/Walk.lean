import BehaviorDiff.Tree.Node

set_option autoImplicit false

/-!
The nodes of a tree in pre-order, said twice: by recursion on the tree, and by a walk that keeps a
stack of trees still to be visited. The walk ends because every step takes one node off the total
size of its stack, and it visits exactly the recursive list.
-/

namespace BehaviorDiff

namespace Node

mutual

/-- A node, then the pre-order of each child from first to last. -/
def preorder : Node → List Node
  | ⟨tag, kind, attributes, children, depth, path⟩ =>
    ⟨tag, kind, attributes, children, depth, path⟩ :: preorderAll children

/-- The pre-orders of a row of trees, one after another. -/
def preorderAll : List Node → List Node
  | [] => []
  | child :: rest => preorder child ++ preorderAll rest

end

theorem preorder_eq (node : Node) : node.preorder = node :: preorderAll node.children := by
  cases node
  rfl

theorem preorderAll_append (a b : List Node) :
    preorderAll (a ++ b) = preorderAll a ++ preorderAll b := by
  induction a with
  | nil => rfl
  | cons node rest ih => simp [preorderAll, ih]

theorem size_eq (node : Node) : node.size = 1 + sizeAll node.children := by
  cases node
  rfl

theorem sizeAll_append (a b : List Node) : sizeAll (a ++ b) = sizeAll a + sizeAll b := by
  induction a with
  | nil => simp [sizeAll]
  | cons node rest ih => simp [sizeAll, ih, Nat.add_assoc]

end Node

/-- A pre-order walk: the trees still to be visited, the next one first. -/
structure Walk where
  pending : List Node

namespace Walk

/-- A walk over a whole tree. -/
def start (root : Node) : Walk := ⟨[root]⟩

/-- Visits the next node and puts its children on top of the stack. -/
def next? : Walk → Option (Node × Walk)
  | ⟨[]⟩ => none
  | ⟨node :: rest⟩ => some (node, ⟨node.children ++ rest⟩)

theorem next?_eq_none_iff {walk : Walk} : walk.next? = none ↔ walk.pending = [] := by
  obtain ⟨pending⟩ := walk
  cases pending <;> simp [next?]

/-- All that a step does: the top of the stack is visited and gives way to its children. -/
theorem next?_eq_some_iff {walk after : Walk} {node : Node} :
    walk.next? = some (node, after) ↔
      ∃ rest, walk.pending = node :: rest ∧ after = ⟨node.children ++ rest⟩ := by
  obtain ⟨pending⟩ := walk
  cases pending with
  | nil => simp [next?]
  | cons top rest =>
    constructor
    · intro h
      cases h
      exact ⟨rest, rfl, rfl⟩
    · rintro ⟨rest, same, rfl⟩
      cases same
      rfl

/-- The number of nodes still to be visited. -/
def remaining (walk : Walk) : Nat := Node.sizeAll walk.pending

theorem remaining_of_next? {walk after : Walk} {node : Node}
    (h : walk.next? = some (node, after)) : walk.remaining = after.remaining + 1 := by
  obtain ⟨rest, pending, rfl⟩ := next?_eq_some_iff.1 h
  simp only [remaining, pending, Node.sizeAll, Node.size_eq node, Node.sizeAll_append]
  omega

/-- Every node that the walk still visits, in order. -/
def toList (walk : Walk) : List Node :=
  match _h : walk.next? with
  | none => []
  | some (node, after) => node :: after.toList
termination_by walk.remaining
decreasing_by have := remaining_of_next? _h; omega

/-- A step takes the first node off the pre-orders of the stacked trees. -/
theorem preorderAll_of_next? {walk after : Walk} {node : Node}
    (h : walk.next? = some (node, after)) :
    Node.preorderAll walk.pending = node :: Node.preorderAll after.pending := by
  obtain ⟨rest, pending, rfl⟩ := next?_eq_some_iff.1 h
  rw [pending, Node.preorderAll, Node.preorder_eq, Node.preorderAll_append]
  rfl

theorem toList_eq_preorderAll (walk : Walk) : walk.toList = Node.preorderAll walk.pending := by
  fun_induction toList walk with
  | case1 walk h => rw [next?_eq_none_iff.1 h, Node.preorderAll]
  | case2 walk node after h ih => rw [preorderAll_of_next? h, ih]

end Walk

/-- The nodes of a tree in the order of a walk. -/
def Node.nodes (root : Node) : List Node := (Walk.start root).toList

theorem Node.nodes_eq_preorder (root : Node) : root.nodes = root.preorder := by
  rw [nodes, Walk.toList_eq_preorderAll]
  simp [Walk.start, preorderAll]

end BehaviorDiff
