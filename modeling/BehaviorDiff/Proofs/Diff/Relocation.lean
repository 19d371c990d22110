import Mathlib.Data.List.Nodup
import BehaviorDiff.Proofs.Diff.Positions

set_option autoImplicit false

/-!
Which nodes are reported as moved. A node is relocated if its path is vacated, its signature occurs
once in either tree, and the node that has it in the new tree stands at a fresh path. The groups by
signature may be met in any order: they yield one move for each relocated node, no two of them from
one path or to one path, and the same list of changes.
-/

namespace BehaviorDiff

/-- The nodes of a signature, in order. -/
def withSignature (nodes : List Node) (signature : String) : List Node :=
  nodes.filter fun node => node.signature == signature

theorem mem_withSignature_iff {nodes : List Node} {signature : String} {node : Node} :
    node ∈ withSignature nodes signature ↔ node ∈ nodes ∧ node.signature = signature := by
  simp [withSignature]

/-- A single node has a signature if it has it and every other node does not. -/
theorem withSignature_eq_singleton_iff {nodes : List Node} (nodup : nodes.Nodup)
    {signature : String} {node : Node} :
    withSignature nodes signature = [node] ↔
      (node ∈ nodes ∧ node.signature = signature) ∧
        ∀ other ∈ nodes, other.signature = signature → other = node := by
  constructor
  · intro h
    have only (other : Node) : (other ∈ nodes ∧ other.signature = signature) ↔ other = node := by
      rw [← mem_withSignature_iff, h, List.mem_singleton]
    exact ⟨(only node).2 rfl, fun other ho hs => (only other).1 ⟨ho, hs⟩⟩
  · rintro ⟨here, only⟩
    rw [← List.perm_singleton]
    refine (List.perm_ext_iff_of_nodup (nodup.filter _) (List.nodup_singleton node)).2 ?_
    intro other
    rw [← withSignature, mem_withSignature_iff, List.mem_singleton]
    constructor
    · rintro ⟨ho, hs⟩
      exact only other ho hs
    · rintro rfl
      exact here

/-- A node left a path that is vacated for a fresh one, and nothing else has its signature. -/
structure Relocated (oldNodes newNodes : List Node) (before after : Node) : Prop where
  before_mem : before ∈ oldNodes
  after_mem : after ∈ newNodes
  vacated : before.path ∉ newNodes.map Node.path
  fresh : after.path ∉ oldNodes.map Node.path
  same_signature : before.signature = after.signature
  only_before : ∀ node ∈ oldNodes, node.signature = before.signature → node = before
  only_after : ∀ node ∈ newNodes, node.signature = after.signature → node = after

namespace Moves

/-- The groups that a map holds once the nodes of a list have been seen. -/
def Grouped (seen : List Node) (m : OrderedMap String (List Node)) : Prop :=
  ∀ signature members, m.get? signature = some members ↔
    members = withSignature seen signature ∧ members ≠ []

theorem Grouped.getD_get? {seen : List Node} {m : OrderedMap String (List Node)}
    (h : Grouped seen m) (signature : String) :
    (m.get? signature).getD [] = withSignature seen signature := by
  cases found : m.get? signature with
  | some members => exact ((h signature members).1 found).1
  | none =>
    by_contra hne
    have := (h signature (withSignature seen signature)).2 ⟨rfl, fun e => hne e.symm⟩
    rw [found] at this
    cases this

/-- Seeing one more node puts it at the end of its group. -/
theorem Grouped.insert {seen : List Node} {m : OrderedMap String (List Node)}
    (h : Grouped seen m) (node : Node) :
    Grouped (seen ++ [node])
      (m.insert node.signature ((m.get? node.signature).getD [] ++ [node])) := by
  intro signature members
  rw [OrderedMap.get?_insert, h.getD_get?]
  by_cases hs : signature = node.signature
  · subst hs
    have here : withSignature (seen ++ [node]) node.signature =
        withSignature seen node.signature ++ [node] := by
      simp [withSignature]
    rw [if_pos rfl, here, Option.some.injEq]
    constructor
    · rintro rfl
      exact ⟨rfl, by simp⟩
    · rintro ⟨rfl, -⟩
      rfl
  · have there : withSignature (seen ++ [node]) signature = withSignature seen signature := by
      simp [withSignature, Ne.symm hs]
    rw [if_neg hs, h, there]

theorem Grouped.foldl {seen : List Node} {m : OrderedMap String (List Node)}
    (h : Grouped seen m) (nodes : List Node) :
    Grouped (seen ++ nodes)
      (nodes.foldl (fun (m : OrderedMap String (List Node)) node =>
        m.insert node.signature ((m.get? node.signature).getD [] ++ [node])) m) := by
  induction nodes generalizing seen m with
  | nil => simpa using h
  | cons node rest ih =>
    rw [List.foldl_cons, List.append_cons]
    exact ih (h.insert node)

/-- A group holds all nodes of its signature, and at least one. -/
theorem mem_groups_iff {nodes : List Node} {group : SignatureGroup} :
    group ∈ groups nodes ↔
      group.members = withSignature nodes group.signature ∧ group.members ≠ [] := by
  have start : Grouped [] .empty := by
    intro signature members
    constructor
    · intro h
      cases h
    · rintro ⟨rfl, hne⟩
      exact absurd rfl hne
  have all := start.foldl nodes group.signature group.members
  rw [List.nil_append, ← OrderedMap.mem_entries_iff] at all
  rw [← all, groups, List.mem_map]
  constructor
  · rintro ⟨entry, hm, rfl⟩
    exact hm
  · intro hm
    exact ⟨_, hm, rfl⟩

/-- No two groups have one signature. -/
theorem pairwise_groups (nodes : List Node) :
    (groups nodes).Pairwise fun a b => a.signature ≠ b.signature := by
  rw [groups, List.pairwise_map]
  exact List.pairwise_map.1 (OrderedMap.nodup _)

/-- Looking a signature up finds its nodes, in whatever order the groups come. -/
theorem membersOf_of_perm {nodes : List Node} {met : List SignatureGroup}
    (order : met.Perm (groups nodes)) (signature : String) :
    membersOf met signature = withSignature nodes signature := by
  unfold membersOf
  cases found : met.find? fun group => group.signature == signature with
  | some group =>
    have hs : group.signature = signature := by simpa using List.find?_some found
    have hm : group ∈ groups nodes := order.subset (List.mem_of_find?_eq_some found)
    subst hs
    exact (mem_groups_iff.1 hm).1
  | none =>
    by_contra hne
    have hm : ⟨signature, withSignature nodes signature⟩ ∈ met :=
      order.symm.subset (mem_groups_iff.2 ⟨rfl, fun e => hne e.symm⟩)
    have := List.find?_eq_none.1 found _ hm
    simp at this

theorem ofGroup?_eq_some {removed added : List String} {newGroups : List SignatureGroup}
    {group : SignatureGroup} {move : Move} :
    ofGroup? removed added newGroups group = some move ↔
      group.members = [move.old] ∧ membersOf newGroups group.signature = [move.new] ∧
        move.old.path ≠ move.new.path ∧ move.old.path ∈ removed ∧ move.new.path ∈ added := by
  obtain ⟨before, after⟩ := move
  unfold ofGroup?
  split
  · next oldNode newNode ho hn =>
    rw [ho, hn]
    constructor
    · intro h
      split at h
      · next cond =>
        cases h
        exact ⟨rfl, rfl, cond⟩
      · cases h
    · rintro ⟨hb, ha, cond⟩
      cases hb
      cases ha
      exact if_pos cond
  · next single =>
    constructor
    · intro h
      cases h
    · rintro ⟨ho, hn, -⟩
      exact absurd hn (single before after ho)

/-- The moves that are found when the groups are met in given orders. -/
def movesIn (options : CompareOptions) (old new : PathIndex)
    (oldGroups newGroups : List SignatureGroup) : List Move :=
  oldGroups.filterMap (ofGroup? (removedPaths (positionalChanges options old new))
    (addedPaths (positionalChanges options old new)) newGroups)

theorem resolveIn_positionalChanges (options : CompareOptions) (old new : PathIndex)
    (oldGroups newGroups : List SignatureGroup) :
    resolveIn oldGroups newGroups (positionalChanges options old new) =
      settled options old new (movesIn options old new oldGroups newGroups) :=
  apply_positionalChanges options old new _

section Orders
variable {options : CompareOptions} {old new : PathIndex}
  {oldGroups newGroups : List SignatureGroup}
  (oldOrder : oldGroups.Perm (groups old.nodes)) (newOrder : newGroups.Perm (groups new.nodes))

include oldOrder newOrder

/-- A group yields a move exactly if its one node is relocated. -/
theorem ofGroup?_eq_some_iff {group : SignatureGroup} (hg : group ∈ oldGroups) {move : Move} :
    ofGroup? (removedPaths (positionalChanges options old new))
        (addedPaths (positionalChanges options old new)) newGroups group = some move ↔
      move.old.signature = group.signature ∧
        Relocated old.nodes new.nodes move.old move.new := by
  rw [ofGroup?_eq_some, (mem_groups_iff.1 (oldOrder.subset hg)).1, membersOf_of_perm newOrder,
    withSignature_eq_singleton_iff old.nodes_nodup, withSignature_eq_singleton_iff new.nodes_nodup,
    mem_removedPaths_positionalChanges, mem_addedPaths_positionalChanges]
  constructor
  · rintro ⟨⟨⟨ho, hs⟩, onlyOld⟩, ⟨⟨hn, hs'⟩, onlyNew⟩, -, ⟨-, vacated⟩, ⟨-, fresh⟩⟩
    refine ⟨hs, ⟨ho, hn, vacated, fresh, hs.trans hs'.symm, ?_, ?_⟩⟩
    · rw [hs]
      exact onlyOld
    · rw [hs']
      exact onlyNew
  · rintro ⟨hs, moved⟩
    have hs' : move.new.signature = group.signature := moved.same_signature.symm.trans hs
    refine ⟨⟨⟨moved.before_mem, hs⟩, ?_⟩, ⟨⟨moved.after_mem, hs'⟩, ?_⟩, ?_,
      ⟨List.mem_map_of_mem moved.before_mem, moved.vacated⟩,
      ⟨List.mem_map_of_mem moved.after_mem, moved.fresh⟩⟩
    · rw [← hs]
      exact moved.only_before
    · rw [← hs']
      exact moved.only_after
    · intro same
      exact moved.vacated (same ▸ List.mem_map_of_mem moved.after_mem)

/-- Exactly the relocated nodes move. -/
theorem mem_movesIn_iff {move : Move} :
    move ∈ movesIn options old new oldGroups newGroups ↔
      Relocated old.nodes new.nodes move.old move.new := by
  rw [movesIn, List.mem_filterMap]
  constructor
  · rintro ⟨group, hg, h⟩
    exact ((ofGroup?_eq_some_iff oldOrder newOrder hg).1 h).2
  · intro moved
    let group : SignatureGroup :=
      ⟨move.old.signature, withSignature old.nodes move.old.signature⟩
    have here : move.old ∈ group.members := mem_withSignature_iff.2 ⟨moved.before_mem, rfl⟩
    have hg : group ∈ oldGroups :=
      oldOrder.symm.subset (mem_groups_iff.2 ⟨rfl, List.ne_nil_of_mem here⟩)
    exact ⟨group, hg, (ofGroup?_eq_some_iff oldOrder newOrder hg).2 ⟨rfl, moved⟩⟩

/-- Two groups never write one old path, nor one new path. -/
theorem pairwise_movesIn :
    (movesIn options old new oldGroups newGroups).Pairwise fun a b =>
      a.old.path ≠ b.old.path ∧ a.new.path ≠ b.new.path := by
  have apart : oldGroups.Pairwise fun a b => a.signature ≠ b.signature :=
    oldOrder.symm.pairwise (pairwise_groups old.nodes) fun h e => h e.symm
  rw [movesIn, List.pairwise_filterMap]
  refine apart.imp_of_mem ?_
  intro g g' hg hg' hne move hm move' hm'
  obtain ⟨hs, moved⟩ := (ofGroup?_eq_some_iff oldOrder newOrder hg).1 hm
  obtain ⟨hs', moved'⟩ := (ofGroup?_eq_some_iff oldOrder newOrder hg').1 hm'
  constructor
  · intro same
    have e := PathIndex.eq_of_path_eq moved.before_mem moved'.before_mem same
    exact hne (by rw [← hs, ← hs', e])
  · intro same
    have e := PathIndex.eq_of_path_eq moved.after_mem moved'.after_mem same
    exact hne (by rw [← hs, ← hs', moved.same_signature, moved'.same_signature, e])

theorem nodup_old_movesIn :
    ((movesIn options old new oldGroups newGroups).map fun move => move.old.path).Nodup :=
  List.pairwise_map.2 ((pairwise_movesIn oldOrder newOrder).imp fun h => h.1)

theorem moved_mem_iff_relocated {before after : Node} :
    .moved before after ∈ settled options old new (movesIn options old new oldGroups newGroups) ↔
      Relocated old.nodes new.nodes before after := by
  have search (move : Move) :
      (movesIn options old new oldGroups newGroups).find?
          (fun move => move.old.path == before.path) = some move ↔
        Relocated old.nodes new.nodes move.old move.new ∧ move.old.path = before.path := by
    rw [find?_eq_some_iff_of_nodup_key (nodup_old_movesIn oldOrder newOrder),
      mem_movesIn_iff oldOrder newOrder]
  rw [moved_mem_settled_iff]
  constructor
  · rintro ⟨ho, -, move, found, rfl⟩
    obtain ⟨moved, same⟩ := (search move).1 found
    exact PathIndex.eq_of_path_eq moved.before_mem ho same ▸ moved
  · intro moved
    exact ⟨moved.before_mem, moved.vacated, ⟨before, after⟩, (search _).2 ⟨moved, rfl⟩, rfl⟩

theorem removed_mem_iff_not_relocated {node : Node} :
    .removed node ∈ settled options old new (movesIn options old new oldGroups newGroups) ↔
      node ∈ old.nodes ∧ node.path ∉ new.nodes.map Node.path ∧
        ∀ after, ¬ Relocated old.nodes new.nodes node after := by
  rw [removed_mem_settled_iff]
  refine and_congr_right fun ho => and_congr_right fun _ => ⟨?_, ?_⟩
  · intro h after moved
    exact h ⟨node, after⟩ ((mem_movesIn_iff oldOrder newOrder).2 moved) rfl
  · intro h move hm same
    have moved := (mem_movesIn_iff oldOrder newOrder).1 hm
    exact h move.new (PathIndex.eq_of_path_eq moved.before_mem ho same ▸ moved)

theorem added_mem_iff_not_relocated {node : Node} :
    .added node ∈ settled options old new (movesIn options old new oldGroups newGroups) ↔
      node ∈ new.nodes ∧ node.path ∉ old.nodes.map Node.path ∧
        ∀ before, ¬ Relocated old.nodes new.nodes before node := by
  rw [added_mem_settled_iff, mem_stayAdded_iff]
  refine and_congr_right fun hn => and_congr_right fun _ => ⟨?_, ?_⟩
  · intro h before moved
    exact h ⟨before, node⟩ ((mem_movesIn_iff oldOrder newOrder).2 moved) rfl
  · intro h move hm same
    have moved := (mem_movesIn_iff oldOrder newOrder).1 hm
    exact h move.old (PathIndex.eq_of_path_eq moved.after_mem hn same ▸ moved)

/-- The settled changes do not depend on the order in which the groups are met. -/
theorem settled_movesIn_eq :
    settled options old new (movesIn options old new oldGroups newGroups) =
      settled options old new
        (movesIn options old new (groups old.nodes) (groups new.nodes)) := by
  have same (move : Move) : move ∈ movesIn options old new oldGroups newGroups ↔
      move ∈ movesIn options old new (groups old.nodes) (groups new.nodes) := by
    rw [mem_movesIn_iff oldOrder newOrder, mem_movesIn_iff (.refl _) (.refl _)]
  have search (path : String) :
      (movesIn options old new oldGroups newGroups).find? (fun move => move.old.path == path) =
        (movesIn options old new (groups old.nodes) (groups new.nodes)).find?
          (fun move => move.old.path == path) := by
    apply Option.ext
    intro move
    rw [find?_eq_some_iff_of_nodup_key (nodup_old_movesIn oldOrder newOrder),
      find?_eq_some_iff_of_nodup_key (nodup_old_movesIn (.refl _) (.refl _)), same]
  have stay : stayAdded old new (movesIn options old new oldGroups newGroups) =
      stayAdded old new (movesIn options old new (groups old.nodes) (groups new.nodes)) := by
    refine List.filter_congr fun node _ => ?_
    rw [Bool.eq_iff_iff]
    simp [same]
  have change : changeOfOld options new (movesIn options old new oldGroups newGroups) =
      changeOfOld options new (movesIn options old new (groups old.nodes) (groups new.nodes)) := by
    funext node
    unfold changeOfOld
    rw [search]
  rw [settled, settled, stay, change]

end Orders

end Moves

/-- The changes of two trees are settled by moves of exactly the relocated nodes. -/
theorem exists_settled_of_compareTrees {options : CompareOptions} {old new : Node}
    {changes : List Change} (h : compareTrees options old new = .ok changes) :
    ∃ oldIndex newIndex moves,
      oldIndex.nodes = old.preorder ∧ newIndex.nodes = new.preorder ∧
        (∀ move, move ∈ moves ↔ Relocated oldIndex.nodes newIndex.nodes move.old move.new) ∧
          changes = Moves.settled options oldIndex newIndex moves := by
  obtain ⟨oldIndex, newIndex, ho, hn, rfl⟩ := compareTrees_eq_ok_iff.1 h
  exact ⟨oldIndex, newIndex, _, ho, hn, fun _ => Moves.mem_movesIn_iff (.refl _) (.refl _),
    Moves.resolveIn_positionalChanges options oldIndex newIndex _ _⟩

/-- Exactly the relocated nodes are reported as moved; every other node whose path only one tree has
stays removed or added. In whatever order the groups by signature are met, no path is left or taken
twice, and the changes are the same. -/
theorem compareTrees_moves_relocated (options : CompareOptions) (old new : Node)
    (oldDistinct : (old.preorder.map Node.path).Nodup)
    (newDistinct : (new.preorder.map Node.path).Nodup) :
    ∃ changes, compareTrees options old new = .ok changes ∧
      (∀ before after, .moved before after ∈ changes ↔
        Relocated old.preorder new.preorder before after) ∧
      (∀ node, .removed node ∈ changes ↔
        node ∈ old.preorder ∧ node.path ∉ new.preorder.map Node.path ∧
          ∀ after, ¬ Relocated old.preorder new.preorder node after) ∧
      (∀ node, .added node ∈ changes ↔
        node ∈ new.preorder ∧ node.path ∉ old.preorder.map Node.path ∧
          ∀ before, ¬ Relocated old.preorder new.preorder before node) ∧
      ∀ oldIndex newIndex oldGroups newGroups,
        PathIndex.ofTree .old old = .ok oldIndex → PathIndex.ofTree .new new = .ok newIndex →
        oldGroups.Perm (Moves.groups old.preorder) → newGroups.Perm (Moves.groups new.preorder) →
          Moves.resolveIn oldGroups newGroups (positionalChanges options oldIndex newIndex) =
              changes ∧
            (Moves.movesIn options oldIndex newIndex oldGroups newGroups).Pairwise fun a b =>
              a.old.path ≠ b.old.path ∧ a.new.path ≠ b.new.path := by
  obtain ⟨oldIndex, ho⟩ := exists_index_of_nodup oldDistinct
  obtain ⟨newIndex, hn⟩ := exists_index_of_nodup newDistinct
  refine ⟨_, compareTrees_eq_ok_iff.2 ⟨oldIndex, newIndex, ho, hn, rfl⟩, ?_⟩
  rw [Moves.resolve, Moves.resolveIn_positionalChanges, ← ho, ← hn]
  refine ⟨fun before after => Moves.moved_mem_iff_relocated (.refl _) (.refl _),
    fun node => Moves.removed_mem_iff_not_relocated (.refl _) (.refl _),
    fun node => Moves.added_mem_iff_not_relocated (.refl _) (.refl _), ?_⟩
  intro oldIndex' newIndex' oldGroups newGroups ho' hn' oldOrder newOrder
  obtain rfl : oldIndex' = oldIndex :=
    PathIndex.ext ((PathIndex.ofTree_eq_ok_iff.1 ho').trans ho.symm)
  obtain rfl : newIndex' = newIndex :=
    PathIndex.ext ((PathIndex.ofTree_eq_ok_iff.1 hn').trans hn.symm)
  rw [Moves.resolveIn_positionalChanges]
  exact ⟨Moves.settled_movesIn_eq oldOrder newOrder, Moves.pairwise_movesIn oldOrder newOrder⟩

/-- A sequence with an action inside a fallback. -/
def actionInFallback : Draft :=
  (Draft.new "Sequence").pushChild
    ((Draft.new "Fallback").pushChild ((Draft.new "Action").setAttribute "ID" "a"))

/-- The same sequence with the action behind the fallback. -/
def actionBehindFallback : Draft :=
  ((Draft.new "Sequence").pushChild (Draft.new "Fallback")).pushChild
    ((Draft.new "Action").setAttribute "ID" "a")

/-- The action, at a depth and a path. -/
def actionAt (depth : Nat) (path : String) : Node :=
  ⟨"Action", .action, OrderedMap.empty.insert "ID" "a", [], depth, path⟩

theorem relocated_action :
    Relocated actionInFallback.build.preorder actionBehindFallback.build.preorder
      (actionAt 2 "Sequence/Fallback[0]/Action[@ID='a']")
      (actionAt 1 "Sequence/Action[@ID='a']") where
  before_mem := .tail _ (.tail _ (.head _))
  after_mem := .tail _ (.tail _ (.head _))
  vacated := by decide
  fresh := by decide
  same_signature := rfl
  only_before := by
    rintro node (_ | ⟨_, _ | ⟨_, _ | ⟨_, hm⟩⟩⟩) same
    · exact absurd same (by decide)
    · exact absurd same (by decide)
    · rfl
    · cases hm
  only_after := by
    rintro node (_ | ⟨_, _ | ⟨_, _ | ⟨_, hm⟩⟩⟩) same
    · exact absurd same (by decide)
    · exact absurd same (by decide)
    · rfl
    · cases hm

theorem compareTrees_moves_action :
    (actionInFallback.build.preorder.map Node.path).Nodup ∧
      (actionBehindFallback.build.preorder.map Node.path).Nodup ∧
        ∃ changes,
          compareTrees .all actionInFallback.build actionBehindFallback.build = .ok changes ∧
            .moved (actionAt 2 "Sequence/Fallback[0]/Action[@ID='a']")
              (actionAt 1 "Sequence/Action[@ID='a']") ∈ changes := by
  have oldDistinct : (actionInFallback.build.preorder.map Node.path).Nodup := by decide
  have newDistinct : (actionBehindFallback.build.preorder.map Node.path).Nodup := by decide
  obtain ⟨changes, h, moved, -⟩ :=
    compareTrees_moves_relocated .all _ _ oldDistinct newDistinct
  exact ⟨oldDistinct, newDistinct, changes, h, (moved _ _).2 relocated_action⟩

end BehaviorDiff
