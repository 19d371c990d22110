import BehaviorDiff.Proofs.Diff.Relocation

set_option autoImplicit false

/-!
The list of changes as a whole. The old sides, in list order, are the pre-order of the old tree; the
additions come last, in the pre-order of the new tree; and every node of the new tree is the new
side of one change. An old node accounts for the new node at its path, or for the one it was moved
to, and no new node is accounted for twice.
-/

namespace BehaviorDiff

/-- The sides that a change of each class has, and the one that describes it. -/
def Change.Shaped (change : Change) : Prop :=
  (match change.kind with
    | .removed => ∃ old, change.old? = some old ∧ change.new? = none
    | .added => ∃ new, change.old? = none ∧ change.new? = some new
    | .modified | .unchanged =>
      ∃ old new, change.old? = some old ∧ change.new? = some new ∧ old.path = new.path
    | .moved =>
      ∃ old new, change.old? = some old ∧ change.new? = some new ∧ old.path ≠ new.path) ∧
  some change.subject = change.new?.or change.old?

theorem shaped_compareContent (options : CompareOptions) {old new : Node}
    (same : old.path = new.path) : (compareContent options old new).Shaped := by
  rcases compareContent_cases options old new with ⟨h, -⟩ | h
  · rw [h]
    exact ⟨⟨old, new, rfl, rfl, same⟩, rfl⟩
  · rw [h]
    exact ⟨⟨old, new, rfl, rfl, same⟩, rfl⟩

/-- An old node accounts for the new node at its path, or for the one it was moved to. -/
def AccountsFor (oldNodes newNodes : List Node) (before after : Node) : Prop :=
  (after ∈ newNodes ∧ after.path = before.path) ∨ Relocated oldNodes newNodes before after

/-- No two old nodes account for one new node. -/
theorem AccountsFor.unique {old new : PathIndex} {a b after : Node} (ha : a ∈ old.nodes)
    (hb : b ∈ old.nodes) (h : AccountsFor old.nodes new.nodes a after)
    (h' : AccountsFor old.nodes new.nodes b after) : a = b := by
  rcases h with ⟨-, hp⟩ | moved
  · rcases h' with ⟨-, hp'⟩ | moved'
    · exact PathIndex.eq_of_path_eq ha hb (hp.symm.trans hp')
    · exact absurd (hp ▸ List.mem_map_of_mem ha) moved'.fresh
  · rcases h' with ⟨-, hp'⟩ | moved'
    · exact absurd (hp' ▸ List.mem_map_of_mem hb) moved.fresh
    · have hs : b.signature = a.signature :=
        moved'.same_signature.trans moved.same_signature.symm
      exact (moved.only_before b hb hs).symm

/-- A relocated node has one destination. -/
theorem Relocated.after_unique {oldNodes newNodes : List Node} {before after after' : Node}
    (moved : Relocated oldNodes newNodes before after)
    (moved' : Relocated oldNodes newNodes before after') : after' = after :=
  moved.only_after after' moved'.after_mem
    (moved'.same_signature.symm.trans moved.same_signature)

namespace Moves

/-- The old sides of the settled changes, in order, are the nodes of the old tree. -/
theorem filterMap_old_settled (options : CompareOptions) (old new : PathIndex)
    (moves : List Move) :
    (settled options old new moves).filterMap Change.old? = old.nodes := by
  have kept : (Change.old? ∘ changeOfOld options new moves) = some :=
    funext (old?_changeOfOld options new moves)
  have none_added : (Change.old? ∘ Change.added) = fun _ => none := rfl
  rw [settled, List.filterMap_append, List.filterMap_map, List.filterMap_map, kept, none_added]
  simp

/-- The new sides are those of the old nodes and the nodes that stay added. -/
theorem filterMap_new_settled (options : CompareOptions) (old new : PathIndex)
    (moves : List Move) :
    (settled options old new moves).filterMap Change.new? =
      old.nodes.filterMap (fun node => (changeOfOld options new moves node).new?) ++
        stayAdded old new moves := by
  have added : (Change.new? ∘ Change.added) = some := rfl
  rw [settled, List.filterMap_append, List.filterMap_map, List.filterMap_map, added,
    List.filterMap_some]
  rfl

theorem kind_changeOfOld_ne_added (options : CompareOptions) (new : PathIndex)
    (moves : List Move) (node : Node) :
    (changeOfOld options new moves node).kind ≠ .added := by
  intro h
  have side := old?_changeOfOld options new moves node
  cases hc : changeOfOld options new moves node with
  | added new =>
    rw [hc] at side
    cases side
  | _ =>
    rw [hc] at h
    cases h

/-- No addition stands before a change of another class. -/
theorem pairwise_added_last_settled (options : CompareOptions) (old new : PathIndex)
    (moves : List Move) :
    (settled options old new moves).Pairwise fun a b => a.kind = .added → b.kind = .added := by
  rw [settled, List.pairwise_append, List.pairwise_map, List.pairwise_map]
  refine ⟨?_, ?_, ?_⟩
  · exact List.pairwise_of_forall fun a b h =>
      absurd h (kind_changeOfOld_ne_added options new moves a)
  · exact List.pairwise_of_forall fun _ _ _ => rfl
  · intro a ha b hb _
    obtain ⟨node, -, rfl⟩ := List.mem_map.1 hb
    rfl

/-- The additions stand in the order of the new tree. -/
theorem sublist_added_settled (options : CompareOptions) (old new : PathIndex)
    (moves : List Move) :
    (((settled options old new moves).filter fun change => change.kind = .added).filterMap
      Change.new?).Sublist new.nodes := by
  have none_kept : ((old.nodes.map (changeOfOld options new moves)).filter
      fun change => change.kind = .added) = [] := by
    rw [List.filter_eq_nil_iff]
    intro change hm
    obtain ⟨node, -, rfl⟩ := List.mem_map.1 hm
    simpa using kind_changeOfOld_ne_added options new moves node
  have all_added : (((stayAdded old new moves).map Change.added).filter
      fun change => change.kind = .added) = (stayAdded old new moves).map Change.added := by
    rw [List.filter_eq_self]
    intro change hm
    obtain ⟨node, -, rfl⟩ := List.mem_map.1 hm
    rfl
  have news : (Change.new? ∘ Change.added) = some := rfl
  rw [settled, List.filter_append, none_kept, all_added, List.nil_append, List.filterMap_map, news,
    List.filterMap_some]
  exact List.filter_sublist

section Settled
variable {options : CompareOptions} {old new : PathIndex} {moves : List Move}
  (relocations : ∀ move, move ∈ moves ↔ Relocated old.nodes new.nodes move.old move.new)

include relocations

/-- A move found by the path of an old node relocates that node. -/
theorem relocated_of_find? {node : Node} (hm : node ∈ old.nodes) {move : Move}
    (search : moves.find? (fun move => move.old.path == node.path) = some move) :
    Relocated old.nodes new.nodes node move.new := by
  have same : move.old.path = node.path := by simpa using List.find?_some search
  have moved := (relocations move).1 (List.mem_of_find?_eq_some search)
  have e : move.old = node := PathIndex.eq_of_path_eq moved.before_mem hm same
  rw [← e]
  exact moved

/-- The new side of the change at an old node is what the node accounts for. -/
theorem new?_changeOfOld_eq_some_iff {node after : Node} (hm : node ∈ old.nodes) :
    (changeOfOld options new moves node).new? = some after ↔
      AccountsFor old.nodes new.nodes node after := by
  rcases changeOfOld_cases options new moves node with
    ⟨other, found, h⟩ | ⟨move, found, search, h⟩ | ⟨found, search, h⟩
  · obtain ⟨hn, hp⟩ := PathIndex.get?_eq_some_iff.1 found
    rw [h, new?_compareContent, Option.some.injEq]
    constructor
    · rintro rfl
      exact Or.inl ⟨hn, hp⟩
    · rintro (⟨ha, hp'⟩ | moved)
      · exact PathIndex.eq_of_path_eq hn ha (hp.trans hp'.symm)
      · exact absurd (hp ▸ List.mem_map_of_mem hn) moved.vacated
  · have moved := relocated_of_find? relocations hm search
    rw [h, Change.new?, Option.some.injEq]
    constructor
    · rintro rfl
      exact Or.inr moved
    · rintro (⟨ha, hp⟩ | moved')
      · exact absurd (hp ▸ List.mem_map_of_mem ha) moved.vacated
      · exact moved'.after_unique moved
  · rw [PathIndex.get?_eq_none_iff] at found
    rw [h, Change.new?]
    constructor
    · intro absent
      cases absent
    · rintro (⟨ha, hp⟩ | moved)
      · exact absurd (hp ▸ List.mem_map_of_mem ha) found
      · have hmove := (relocations ⟨node, after⟩).2 moved
        have := List.find?_eq_none.1 search _ hmove
        simp at this

/-- A relocated node is moved. -/
theorem changeOfOld_of_relocated {before after : Node}
    (moved : Relocated old.nodes new.nodes before after) :
    changeOfOld options new moves before = .moved before after := by
  have side : (changeOfOld options new moves before).new? = some after :=
    (new?_changeOfOld_eq_some_iff relocations moved.before_mem).2 (.inr moved)
  rcases changeOfOld_cases options new moves before with
    ⟨other, found, -⟩ | ⟨move, -, -, h⟩ | ⟨-, -, h⟩
  · rw [PathIndex.get?_eq_none_iff.2 moved.vacated] at found
    cases found
  · rw [h, Change.new?, Option.some.injEq] at side
    rw [h, side]
  · rw [h] at side
    cases side

/-- A node stays added exactly if no old node accounts for it. -/
theorem mem_stayAdded_iff_not_accountsFor {after : Node} :
    after ∈ stayAdded old new moves ↔
      after ∈ new.nodes ∧ ∀ node ∈ old.nodes, ¬ AccountsFor old.nodes new.nodes node after := by
  rw [mem_stayAdded_iff]
  refine and_congr_right fun hn => ⟨?_, ?_⟩
  · rintro ⟨fresh, untaken⟩ node ho (⟨-, hp⟩ | moved)
    · exact fresh (hp ▸ List.mem_map_of_mem ho)
    · exact untaken ⟨node, after⟩ ((relocations _).2 moved) rfl
  · intro free
    constructor
    · intro known
      obtain ⟨node, ho, hp⟩ := List.mem_map.1 known
      exact free node ho (Or.inl ⟨hn, hp.symm⟩)
    · intro move hmove hp
      have moved := (relocations move).1 hmove
      have e : move.new = after := PathIndex.eq_of_path_eq moved.after_mem hn hp
      exact free move.old moved.before_mem (Or.inr (e ▸ moved))

/-- Every node of the new tree is a new side. -/
theorem mem_new_settled_iff {after : Node} :
    after ∈ (settled options old new moves).filterMap Change.new? ↔ after ∈ new.nodes := by
  rw [filterMap_new_settled, List.mem_append, List.mem_filterMap,
    mem_stayAdded_iff_not_accountsFor relocations]
  constructor
  · rintro (⟨node, ho, h⟩ | ⟨hn, -⟩)
    · rcases (new?_changeOfOld_eq_some_iff relocations ho).1 h with ⟨hn, -⟩ | moved
      · exact hn
      · exact moved.after_mem
    · exact hn
  · intro hn
    by_cases h : ∃ node ∈ old.nodes, AccountsFor old.nodes new.nodes node after
    · obtain ⟨node, ho, claim⟩ := h
      exact Or.inl ⟨node, ho, (new?_changeOfOld_eq_some_iff relocations ho).2 claim⟩
    · exact Or.inr ⟨hn, fun node ho claim => h ⟨node, ho, claim⟩⟩

/-- No node of the new tree is a new side twice. -/
theorem nodup_new_settled :
    ((settled options old new moves).filterMap Change.new?).Nodup := by
  rw [filterMap_new_settled, List.nodup_append]
  refine ⟨?_, new.nodes_nodup.filter _, ?_⟩
  · refine List.pairwise_filterMap.2 (old.nodes_nodup.imp_of_mem ?_)
    intro a b ha hb hne after h after' h' same
    subst same
    have claim := (new?_changeOfOld_eq_some_iff relocations ha).1 h
    have claim' := (new?_changeOfOld_eq_some_iff relocations hb).1 h'
    exact hne (claim.unique ha hb claim')
  · intro a ha b hb same
    subst same
    obtain ⟨node, ho, h⟩ := List.mem_filterMap.1 ha
    have claim := (new?_changeOfOld_eq_some_iff relocations ho).1 h
    exact ((mem_stayAdded_iff_not_accountsFor relocations).1 hb).2 node ho claim

theorem shaped_of_mem_settled {change : Change}
    (hm : change ∈ settled options old new moves) : change.Shaped := by
  rcases mem_settled_iff.1 hm with ⟨node, -, ho, rfl⟩ | ⟨node, -, rfl⟩
  · rcases changeOfOld_cases options new moves node with
      ⟨other, found, h⟩ | ⟨move, found, search, h⟩ | ⟨found, search, h⟩
    · rw [h]
      exact shaped_compareContent options (PathIndex.get?_eq_some_iff.1 found).2.symm
    · have moved := relocated_of_find? relocations ho search
      have apart : node.path ≠ move.new.path := fun same =>
        moved.fresh (same ▸ List.mem_map_of_mem ho)
      rw [h]
      exact ⟨⟨node, move.new, rfl, rfl, apart⟩, rfl⟩
    · rw [h]
      exact ⟨⟨node, rfl, rfl⟩, rfl⟩
  · exact ⟨⟨node, rfl, rfl⟩, rfl⟩

end Settled

end Moves

/-- The old sides of the changes are the pre-order of the old tree and the new sides are the nodes
of the new tree, each once; additions come last, in the pre-order of the new tree; and every change
has the sides of its class. -/
theorem compareTrees_partitions_nodes (options : CompareOptions) (old new : Node)
    {changes : List Change} (h : compareTrees options old new = .ok changes) :
    (changes.filterMap Change.old? = old.preorder ∧ old.preorder.Nodup ∧
        changes.Pairwise fun a b => a.kind = .added → b.kind = .added) ∧
      ((changes.filterMap Change.new?).Perm new.preorder ∧ new.preorder.Nodup ∧
        ((changes.filter fun change => change.kind = .added).filterMap Change.new?).Sublist
          new.preorder) ∧
      ∀ change ∈ changes, change.Shaped := by
  obtain ⟨oldIndex, newIndex, moves, ho, hn, relocations, rfl⟩ := exists_settled_of_compareTrees h
  have news : ((Moves.settled options oldIndex newIndex moves).filterMap Change.new?).Perm
      newIndex.nodes :=
    (List.perm_ext_iff_of_nodup (Moves.nodup_new_settled relocations) newIndex.nodes_nodup).2
      fun _ => Moves.mem_new_settled_iff relocations
  rw [← ho, ← hn]
  refine ⟨⟨?_, oldIndex.nodes_nodup, ?_⟩, ⟨news, newIndex.nodes_nodup, ?_⟩, ?_⟩
  · exact Moves.filterMap_old_settled options oldIndex newIndex moves
  · exact Moves.pairwise_added_last_settled options oldIndex newIndex moves
  · exact Moves.sublist_added_settled options oldIndex newIndex moves
  · intro change hm
    exact Moves.shaped_of_mem_settled relocations hm

theorem compareTrees_partitions_action :
    ∃ changes,
      compareTrees .all actionInFallback.build actionBehindFallback.build = .ok changes ∧
        changes.map Change.kind = [.unchanged, .unchanged, .moved] ∧
          changes.filterMap Change.old? = actionInFallback.build.preorder ∧
            (changes.filterMap Change.new?).Perm actionBehindFallback.build.preorder := by
  obtain ⟨changes, compared, kinds⟩ : ∃ changes,
      compareTrees .all actionInFallback.build actionBehindFallback.build = .ok changes ∧
        changes.map Change.kind = [.unchanged, .unchanged, .moved] :=
    ⟨_, compareTrees_eq_ok_iff.2 ⟨⟨actionInFallback.build.preorder, by decide⟩,
      ⟨actionBehindFallback.build.preorder, by decide⟩, rfl, rfl, rfl⟩, by decide⟩
  obtain ⟨⟨olds, -⟩, ⟨news, -⟩, -⟩ := compareTrees_partitions_nodes .all _ _ compared
  exact ⟨changes, compared, kinds, olds, news⟩

end BehaviorDiff
