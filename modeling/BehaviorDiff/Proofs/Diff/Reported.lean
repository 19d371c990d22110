import BehaviorDiff.Proofs.Diff.ChangeList
import BehaviorDiff.Proofs.Diff.Content

set_option autoImplicit false

/-!
What a comparison reports, said for one change at a time and without the order of the list: a node
that both trees have at one path is compared, a relocated node is moved, and any other node is
removed or added. No change is reported twice. Nothing but unchanged nodes is reported exactly if
every node of either tree stands in the other at the same path and without a difference.
-/

namespace BehaviorDiff

/-- What a comparison reports of the nodes of two trees. -/
inductive Reported (options : CompareOptions) (old new : List Node) : Change → Prop
  | matched {before after : Node} : before ∈ old → after ∈ new → before.path = after.path →
      Reported options old new (compareContent options before after)
  | moved {before after : Node} : Relocated old new before after →
      Reported options old new (.moved before after)
  | removed {before : Node} : before ∈ old → before.path ∉ new.map Node.path →
      (∀ after, ¬ Relocated old new before after) → Reported options old new (.removed before)
  | added {after : Node} : after ∈ new → after.path ∉ old.map Node.path →
      (∀ before, ¬ Relocated old new before after) → Reported options old new (.added after)

/-- Every node of the first list has one in the second with the same path and no difference. -/
def Covers (options : CompareOptions) (old new : List Node) : Prop :=
  ∀ before ∈ old, ∃ after ∈ new,
    before.path = after.path ∧ (contentDelta options before after).isEmpty = true

namespace Moves

section Settled
variable {options : CompareOptions} {old new : PathIndex} {moves : List Move}
  (relocations : ∀ move, move ∈ moves ↔ Relocated old.nodes new.nodes move.old move.new)

include relocations

theorem mem_settled_iff_reported {change : Change} :
    change ∈ settled options old new moves ↔ Reported options old.nodes new.nodes change := by
  rw [mem_settled_iff]
  constructor
  · rintro (⟨node, -, ho, rfl⟩ | ⟨node, hm, rfl⟩)
    · rcases changeOfOld_cases options new moves node with
        ⟨other, found, h⟩ | ⟨move, -, search, h⟩ | ⟨found, -, h⟩
      · obtain ⟨hn, path⟩ := PathIndex.get?_eq_some_iff.1 found
        rw [h]
        exact .matched ho hn path.symm
      · rw [h]
        exact .moved (relocated_of_find? relocations ho search)
      · have stays (after : Node) : ¬ Relocated old.nodes new.nodes node after := by
          intro moved
          rw [changeOfOld_of_relocated relocations moved] at h
          cases h
        rw [h]
        exact .removed ho (PathIndex.get?_eq_none_iff.1 found) stays
    · obtain ⟨hn, free⟩ := (mem_stayAdded_iff_not_accountsFor relocations).1 hm
      refine .added hn ?_ fun before moved => free before moved.before_mem (.inr moved)
      intro known
      obtain ⟨before, ho, path⟩ := List.mem_map.1 known
      exact free before ho (.inl ⟨hn, path.symm⟩)
  · intro reported
    cases reported with
    | matched ho hn path =>
      have found := PathIndex.get?_eq_some_iff.2 ⟨hn, path.symm⟩
      exact .inl ⟨_, old?_compareContent _ _ _, ho, changeOfOld_of_get? options moves found⟩
    | moved moved =>
      exact .inl ⟨_, rfl, moved.before_mem, changeOfOld_of_relocated relocations moved⟩
    | @removed before ho vacated stays =>
      have search : moves.find? (fun move => move.old.path == before.path) = none := by
        rw [List.find?_eq_none]
        intro move hm same
        have moved := (relocations move).1 hm
        have e : move.old = before :=
          PathIndex.eq_of_path_eq moved.before_mem ho (by simpa using same)
        exact stays move.new (e ▸ moved)
      exact .inl ⟨before, rfl, ho,
        changeOfOld_eq_removed_iff.2 ⟨PathIndex.get?_eq_none_iff.2 vacated, search⟩⟩
    | @added after hn fresh stays =>
      refine .inr ⟨after, (mem_stayAdded_iff_not_accountsFor relocations).2 ⟨hn, ?_⟩, rfl⟩
      rintro before ho (⟨-, path⟩ | moved)
      · exact fresh (path ▸ List.mem_map_of_mem ho)
      · exact stays before moved

end Settled

end Moves

/-- No change is settled twice: its old node or its new one tells it from all others. -/
theorem Moves.nodup_settled (options : CompareOptions) (old new : PathIndex) (moves : List Move) :
    (settled options old new moves).Nodup := by
  rw [settled, List.nodup_append]
  refine ⟨?_, ?_, ?_⟩
  · refine old.nodes_nodup.map_on fun node _ other _ same => ?_
    have sides := congrArg Change.old? same
    rw [old?_changeOfOld, old?_changeOfOld] at sides
    exact Option.some.inj sides
  · refine (new.nodes_nodup.filter _).map fun node other same => ?_
    cases same
    rfl
  · intro change ho change' hn same
    obtain ⟨node, -, rfl⟩ := List.mem_map.1 ho
    obtain ⟨other, -, rfl⟩ := List.mem_map.1 hn
    have sides := congrArg Change.old? same
    rw [old?_changeOfOld] at sides
    cases sides

/-- Two trees can be compared exactly if no path occurs twice in either. -/
theorem exists_changes_iff {options : CompareOptions} {old new : Node} :
    (∃ changes, compareTrees options old new = .ok changes) ↔
      (old.preorder.map Node.path).Nodup ∧ (new.preorder.map Node.path).Nodup := by
  constructor
  · rintro ⟨changes, compared⟩
    obtain ⟨oldIndex, newIndex, ho, hn, -⟩ := compareTrees_eq_ok_iff.1 compared
    rw [← ho, ← hn]
    exact ⟨oldIndex.nodup, newIndex.nodup⟩
  · rintro ⟨oldDistinct, newDistinct⟩
    exact exists_changes_of_nodup options oldDistinct newDistinct

section Compared
variable {options : CompareOptions} {old new : Node} {changes : List Change}
  (compared : compareTrees options old new = .ok changes)

include compared

theorem mem_changes_iff_reported {change : Change} :
    change ∈ changes ↔ Reported options old.preorder new.preorder change := by
  obtain ⟨oldIndex, newIndex, moves, ho, hn, relocations, rfl⟩ :=
    exists_settled_of_compareTrees compared
  rw [← ho, ← hn]
  exact Moves.mem_settled_iff_reported relocations

theorem nodup_changes : changes.Nodup := by
  obtain ⟨oldIndex, newIndex, moves, -, -, -, rfl⟩ := exists_settled_of_compareTrees compared
  exact Moves.nodup_settled options oldIndex newIndex moves

/-- A comparison finds no change exactly if either tree covers the other. -/
theorem forall_unchanged_iff :
    (∀ change ∈ changes, change.kind = .unchanged) ↔
      Covers options old.preorder new.preorder ∧ Covers options new.preorder old.preorder := by
  have reported {change : Change} :
      change ∈ changes ↔ Reported options old.preorder new.preorder change :=
    mem_changes_iff_reported compared
  obtain ⟨oldDistinct, newDistinct⟩ := exists_changes_iff.1 ⟨changes, compared⟩
  constructor
  · intro all
    have notMoved (before after : Node) : ¬ Relocated old.preorder new.preorder before after :=
      fun moved => by cases all _ (reported.2 (.moved moved))
    refine ⟨fun before ho => ?_, fun after hn => ?_⟩
    · by_cases kept : before.path ∈ new.preorder.map Node.path
      · obtain ⟨after, hn, path⟩ := List.mem_map.1 kept
        exact ⟨after, hn, path.symm,
          kind_compareContent_eq_unchanged_iff.1 (all _ (reported.2 (.matched ho hn path.symm)))⟩
      · cases all _ (reported.2 (.removed ho kept (notMoved before)))
    · by_cases known : after.path ∈ old.preorder.map Node.path
      · obtain ⟨before, ho, path⟩ := List.mem_map.1 known
        exact ⟨before, ho, path.symm, isEmpty_contentDelta_symm
          (kind_compareContent_eq_unchanged_iff.1 (all _ (reported.2 (.matched ho hn path))))⟩
      · cases all _ (reported.2 (.added hn known fun before => notMoved before after))
  · rintro ⟨covers, covers'⟩ change hm
    have kept {before : Node} (ho : before ∈ old.preorder) :
        before.path ∈ new.preorder.map Node.path := by
      obtain ⟨after, hn, path, -⟩ := covers before ho
      exact path ▸ List.mem_map_of_mem hn
    cases reported.1 hm with
    | @matched before after ho hn path =>
      obtain ⟨other, ho', path', empty⟩ := covers before ho
      obtain rfl : other = after :=
        List.inj_on_of_nodup_map newDistinct ho' hn (path'.symm.trans path)
      exact kind_compareContent_eq_unchanged_iff.2 empty
    | moved moved => exact absurd (kept moved.before_mem) moved.vacated
    | removed ho vacated _ => exact absurd (kept ho) vacated
    | @added after hn fresh _ =>
      obtain ⟨before, ho, path, -⟩ := covers' after hn
      exact absurd (path ▸ List.mem_map_of_mem ho) fresh

end Compared

end BehaviorDiff
