import Mathlib.Algebra.GroupWithZero.Nat
import Mathlib.Data.List.Nodup
import Mathlib.Data.List.Perm.Basic
import Mathlib.Data.Nat.Basic
import Mathlib.Order.Basic
import BehaviorDiff.Proofs.Tree.Chain
import BehaviorDiff.Proofs.Tree.Walk
import BehaviorDiff.Tree.Stats

set_option autoImplicit false

/-!
What the statistics of a tree and of a document measure. One pass over the nodes counts them, all
and by kind, and keeps the greatest depth, which was stored when the tree was built; read off the
draft itself these are the number of its nodes and its height. Over a document the counts are sums
and the depth is a maximum, so the order of the trees does not count.
-/

namespace BehaviorDiff

namespace Draft

mutual

/-- The number of nodes of a draft that have a tag of some sort. -/
def tally (sort : String → Bool) : Draft → Nat
  | ⟨tag, _, children⟩ => (if sort tag then 1 else 0) + tallyAll sort children

/-- The number of nodes of a row of drafts that have a tag of some sort. -/
def tallyAll (sort : String → Bool) : List Draft → Nat
  | [] => 0
  | child :: rest => tally sort child + tallyAll sort rest

end

mutual

/-- The number of steps from a draft down to its deepest leaf. -/
def height : Draft → Nat
  | ⟨_, _, children⟩ => heightOver children

/-- The height of a draft over a row of children. -/
def heightOver : List Draft → Nat
  | [] => 0
  | child :: rest => max (height child + 1) (heightOver rest)

end

mutual

/-- The built nodes of some sort are as many as the drafts of that sort. -/
theorem countP_preorder_buildAt (sort : String → Bool) :
    (path : String) → (depth : Nat) → (draft : Draft) →
      ((draft.buildAt path depth).preorder.countP fun node => sort node.tag) = draft.tally sort
  | path, depth, ⟨tag, attributes, children⟩ => by
    rw [buildAt, Node.preorder, List.countP_cons, tally,
      countP_preorderAll_buildChildren sort path (depth + 1) [] children, Nat.add_comm]

private theorem countP_preorderAll_buildChildren (sort : String → Bool) :
    (parent : String) → (depth : Nat) → (earlier : List String) → (drafts : List Draft) →
      ((Node.preorderAll (buildChildren parent depth earlier drafts)).countP
        fun node => sort node.tag) = tallyAll sort drafts
  | _, _, _, [] => rfl
  | parent, depth, earlier, child :: rest => by
    rw [buildChildren, Node.preorderAll, List.countP_append, countP_preorder_buildAt,
      countP_preorderAll_buildChildren, tallyAll]

end

mutual

/-- The deepest node of a built tree is as far below its root as the draft is high. -/
theorem depth_le_iff {bound : Nat} :
    (path : String) → (depth : Nat) → (draft : Draft) →
      ((∀ node ∈ (draft.buildAt path depth).preorder, node.depth ≤ bound) ↔
        depth + draft.height ≤ bound)
  | path, depth, ⟨tag, attributes, children⟩ => by
    rw [buildAt, Node.preorder, List.forall_mem_cons, height]
    exact depth_le_iff_over path depth [] children

private theorem depth_le_iff_over {bound : Nat} :
    (parent : String) → (depth : Nat) → (earlier : List String) → (drafts : List Draft) →
      ((depth ≤ bound ∧ ∀ node ∈ Node.preorderAll (buildChildren parent (depth + 1) earlier drafts),
          node.depth ≤ bound) ↔ depth + heightOver drafts ≤ bound)
  | _, depth, _, [] => by simp [buildChildren, Node.preorderAll, heightOver]
  | parent, depth, earlier, child :: rest => by
    rw [buildChildren, Node.preorderAll, List.forall_mem_append, and_left_comm,
      depth_le_iff_over parent depth (child.tag :: earlier) rest, depth_le_iff, heightOver]
    omega

end

theorem size_build (draft : Draft) : draft.build.size = draft.tally fun _ => true := by
  rw [← Node.length_preorder, ← List.countP_true, build]
  exact countP_preorder_buildAt (fun _ => true) draft.tag 0 draft

theorem tallyAll_append (sort : String → Bool) (a b : List Draft) :
    tallyAll sort (a ++ b) = tallyAll sort a + tallyAll sort b := by
  induction a with
  | nil => exact (Nat.zero_add _).symm
  | cons child rest ih => rw [List.cons_append, tallyAll, tallyAll, ih, Nat.add_assoc]

theorem tally_pushChild (sort : String → Bool) (draft child : Draft) :
    (draft.pushChild child).tally sort = draft.tally sort + child.tally sort := by
  obtain ⟨tag, attributes, children⟩ := draft
  rw [pushChild, tally, tally, tallyAll_append, tallyAll, tallyAll, Nat.add_zero, Nat.add_assoc]

end Draft

namespace TreeStats

/-- What every node of some sort raises by one counts the nodes of that sort. -/
theorem measure_foldl_add (measure : TreeStats → Nat) {sort : Node → Bool}
    (counts : ∀ stats node, measure (add stats node) = measure stats + if sort node then 1 else 0)
    (nodes : List Node) (stats : TreeStats) :
    measure (nodes.foldl add stats) = measure stats + nodes.countP sort := by
  induction nodes generalizing stats with
  | nil => rfl
  | cons node rest ih =>
    rw [List.foldl_cons, ih, counts, List.countP_cons]
    omega

theorem total_of (root : Node) : (of root).total = root.preorder.length := by
  have counts (stats : TreeStats) (node : Node) :
      (stats.add node).total = stats.total + if true then 1 else 0 := rfl
  rw [of, measure_foldl_add total counts, Node.nodes_eq_preorder, List.countP_true]
  exact Nat.zero_add _

theorem count_add (stats : TreeStats) (node : Node) (kind : NodeKind) :
    (stats.add node).count kind =
      stats.count kind + if decide (node.kind = kind) then 1 else 0 := by
  cases own : node.kind <;> cases kind <;> simp [add, count, own]

theorem count_of (root : Node) (kind : NodeKind) :
    (of root).count kind = root.preorder.countP fun node => node.kind = kind := by
  have counts (stats : TreeStats) (node : Node) := count_add stats node kind
  rw [of, measure_foldl_add (count · kind) counts, Node.nodes_eq_preorder]
  cases kind <;> exact Nat.zero_add _

theorem sum_of (root : Node) :
    (of root).control + (of root).action + (of root).condition + (of root).decorator +
      (of root).subtree = (of root).total := by
  have counts (stats : TreeStats) (node : Node) :
      (stats.add node).control + (stats.add node).action + (stats.add node).condition +
          (stats.add node).decorator + (stats.add node).subtree =
        stats.control + stats.action + stats.condition + stats.decorator + stats.subtree +
          if true then 1 else 0 := by
    cases own : node.kind <;> simp only [add, own, if_true] <;> omega
  have sum := measure_foldl_add (fun stats => stats.control + stats.action + stats.condition +
    stats.decorator + stats.subtree) counts root.preorder zero
  rw [List.countP_true] at sum
  rw [total_of, of, Node.nodes_eq_preorder]
  exact sum.trans (Nat.zero_add _)

theorem maxDepth_foldl_add_le_iff (nodes : List Node) (stats : TreeStats) (bound : Nat) :
    (nodes.foldl add stats).maxDepth ≤ bound ↔
      stats.maxDepth ≤ bound ∧ ∀ node ∈ nodes, node.depth ≤ bound := by
  induction nodes generalizing stats with
  | nil => simp
  | cons node rest ih =>
    have deepest : (stats.add node).maxDepth = max stats.maxDepth node.depth := rfl
    rw [List.foldl_cons, ih, deepest, List.forall_mem_cons, Nat.max_le, and_assoc]

theorem maxDepth_of_le_iff (root : Node) (bound : Nat) :
    (of root).maxDepth ≤ bound ↔ ∀ node ∈ root.preorder, node.depth ≤ bound := by
  rw [of, maxDepth_foldl_add_le_iff, Node.nodes_eq_preorder]
  exact and_iff_right (Nat.zero_le bound)

/-- What is added up in merging two counts is added up over a list of counts. -/
theorem measure_foldl_merge (measure : TreeStats → Nat)
    (adds : ∀ a b, measure (merge a b) = measure a + measure b) (each : List TreeStats)
    (stats : TreeStats) :
    measure (each.foldl merge stats) = measure stats + (each.map measure).sum := by
  induction each generalizing stats with
  | nil => rfl
  | cons first rest ih =>
    rw [List.foldl_cons, ih, adds, List.map_cons, List.sum_cons, Nat.add_assoc]

theorem maxDepth_foldl_merge (each : List TreeStats) (stats : TreeStats) :
    (each.foldl merge stats).maxDepth = max stats.maxDepth ((each.map maxDepth).foldr max 0) := by
  induction each generalizing stats with
  | nil => exact (Nat.max_zero _).symm
  | cons first rest ih =>
    have deepest : (stats.merge first).maxDepth = max stats.maxDepth first.maxDepth := rfl
    rw [List.foldl_cons, ih, deepest, List.map_cons, List.foldr_cons, Nat.max_assoc]

instance : RightCommutative merge where
  right_comm a b c := by
    simp only [merge, mk.injEq]
    omega

end TreeStats

namespace Document

theorem nodup_definitions (document : Document) : document.definitions.Nodup :=
  List.Nodup.of_map Prod.fst document.names_nodup

/-- Documents with the same tree under every name have the same definitions up to their order. -/
theorem definitions_perm_of_get?_eq {document other : Document}
    (same : ∀ name, other.get? name = document.get? name) :
    other.definitions.Perm document.definitions := by
  refine (List.perm_ext_iff_of_nodup other.nodup_definitions document.nodup_definitions).2 ?_
  rintro ⟨name, root⟩
  rw [mem_definitions_iff, mem_definitions_iff, same]

end Document

namespace DocumentStats

/-- What is added up in merging is, for a document, the sum over its trees. -/
theorem measure_of (measure : TreeStats → Nat)
    (adds : ∀ a b, measure (TreeStats.merge a b) = measure a + measure b)
    (none : measure .zero = 0) (document : Document) :
    measure (of document).nodes =
      (document.definitions.map fun entry => measure (TreeStats.of entry.2)).sum := by
  rw [of, TreeStats.measure_foldl_merge measure adds, none, Nat.zero_add, List.map_map]
  rfl

theorem maxDepth_of (document : Document) :
    (of document).nodes.maxDepth =
      (document.definitions.map fun entry => (TreeStats.of entry.2).maxDepth).foldr max 0 := by
  rw [of, TreeStats.maxDepth_foldl_merge, List.map_map]
  exact Nat.zero_max _

theorem of_eq_of_perm {document other : Document}
    (perm : other.definitions.Perm document.definitions) : of other = of document := by
  have trees : other.size = document.size := perm.length_eq
  rw [of, of, trees, (perm.map _).foldl_eq]

end DocumentStats

/-- The statistics of a built tree are the number of nodes of its draft, in all and of every kind,
and its height; the counts of the kinds add up to the number of nodes. Those of a document are the
number of its trees, the sums of their counts and their greatest depth, in whatever order the trees
were inserted. -/
theorem statistics_measure_trees (draft : Draft) (document : Document) :
    ((TreeStats.of draft.build).total = draft.tally (fun _ => true) ∧
      (∀ kind, (TreeStats.of draft.build).count kind =
        draft.tally fun tag => NodeKind.classify tag = kind) ∧
      (TreeStats.of draft.build).control + (TreeStats.of draft.build).action +
        (TreeStats.of draft.build).condition + (TreeStats.of draft.build).decorator +
          (TreeStats.of draft.build).subtree = (TreeStats.of draft.build).total ∧
      (TreeStats.of draft.build).maxDepth = draft.height) ∧
    (DocumentStats.of document).trees = document.definitions.length ∧
    (DocumentStats.of document).nodes.total =
      (document.definitions.map fun entry => (TreeStats.of entry.2).total).sum ∧
    (∀ kind, (DocumentStats.of document).nodes.count kind =
      (document.definitions.map fun entry => (TreeStats.of entry.2).count kind).sum) ∧
    (DocumentStats.of document).nodes.maxDepth =
      (document.definitions.map fun entry => (TreeStats.of entry.2).maxDepth).foldr max 0 ∧
    (∀ insertions : List (String × Node), insertions.Perm document.definitions →
      DocumentStats.of (.ofList insertions) = DocumentStats.of document) ∧
    ∀ other : Document, (∀ name, other.get? name = document.get? name) →
      DocumentStats.of other = DocumentStats.of document := by
  have total := DocumentStats.measure_of TreeStats.total (fun _ _ => rfl) rfl document
  have count (kind : NodeKind) :=
    DocumentStats.measure_of (TreeStats.count · kind) (fun _ _ => by cases kind <;> rfl)
      (by cases kind <;> rfl) document
  refine ⟨⟨?_, fun kind => ?_, TreeStats.sum_of draft.build, ?_⟩, rfl, total, count,
    DocumentStats.maxDepth_of document, fun insertions perm => ?_, fun other same => ?_⟩
  · rw [TreeStats.total_of, Node.length_preorder, Draft.size_build]
  · rw [TreeStats.count_of, ← draft.countP_preorder_buildAt _ draft.tag 0]
    refine List.countP_congr fun node hm => ?_
    rw [kind_of_mem_build hm]
  · refine eq_of_forall_ge_iff fun bound => ?_
    rw [TreeStats.maxDepth_of_le_iff, Draft.build, Draft.depth_le_iff, Nat.zero_add]
  · have distinct : (insertions.map Prod.fst).Nodup :=
      (perm.map Prod.fst).nodup_iff.2 document.names_nodup
    have inserted : (Document.ofList insertions).definitions = insertions :=
      OrderedMap.entries_ofList distinct
    rw [← inserted] at perm
    exact DocumentStats.of_eq_of_perm perm
  · exact DocumentStats.of_eq_of_perm (Document.definitions_perm_of_get?_eq same)

example : TreeStats.of ((Draft.new "Sequence").pushChild
    ((Draft.new "Inverter").pushChild (Draft.new "Dock"))).build =
      ⟨3, 1, 1, 0, 1, 0, 2⟩ := by cbv

end BehaviorDiff
