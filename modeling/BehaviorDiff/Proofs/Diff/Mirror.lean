import BehaviorDiff.Proofs.Diff.Content
import BehaviorDiff.Proofs.Diff.Reported

set_option autoImplicit false

/-!
The comparison the other way round. What is reported of two trees is said once for all kinds of
changes, by conditions on paths and signatures that treat both trees alike. So the changes of the
exchanged trees are the same ones seen from the other side, in another order; only the attribute
deltas of a node may stand in another order, too.
-/

namespace BehaviorDiff

/-- The two values exchanged. -/
def Delta.mirror {α : Type} (delta : Delta α) : Delta α := ⟨delta.new, delta.old⟩

/-- The two values of every attribute exchanged. -/
def AttributeDeltas.mirror (deltas : AttributeDeltas) : AttributeDeltas where
  entries := deltas.entries.map fun entry => (entry.1, entry.2.mirror)
  nodup := by
    rw [List.map_map]
    exact deltas.nodup

/-- The difference seen from the other side. -/
def ContentDelta.mirror (delta : ContentDelta) : ContentDelta where
  tag := delta.tag.map Delta.mirror
  kind := delta.kind.map Delta.mirror
  attributes := AttributeDeltas.mirror delta.attributes

/-- The change seen from the other side. -/
def Change.mirror : Change → Change
  | .added new => .removed new
  | .removed old => .added old
  | .modified old new delta => .modified new old delta.mirror
  | .unchanged old new => .unchanged new old
  | .moved old new => .moved new old

/-- Differences that agree up to the order of the attributes. -/
structure ContentDelta.Same (a b : ContentDelta) : Prop where
  tag : a.tag = b.tag
  kind : a.kind = b.kind
  attributes : a.attributes.sameEntries b.attributes = true

/-- Changes that agree up to the order of attribute deltas. -/
inductive Change.Same : Change → Change → Prop
  | refl (change : Change) : Same change change
  | modified {old new : Node} {delta delta' : ContentDelta} :
      delta.Same delta' → Same (.modified old new delta) (.modified old new delta')

/-- Maps with the same value under every key have the same entries, in whatever order. -/
theorem OrderedMap.sameEntries_of_get?_eq {κ ν : Type} [DecidableEq κ] [DecidableEq ν]
    {a b : OrderedMap κ ν} (same : ∀ key, a.get? key = b.get? key) : a.sameEntries b = true := by
  have keys : a.keys.Perm b.keys := by
    refine (List.perm_ext_iff_of_nodup a.keys_nodup b.keys_nodup).2 fun key => ?_
    rw [← contains_iff, ← contains_iff, contains, contains, same]
  have sizes : a.size = b.size := by simpa [OrderedMap.keys, size] using keys.length_eq
  rw [sameEntries, Bool.and_eq_true, beq_iff_eq, List.all_eq_true]
  refine ⟨sizes, fun entry hm => ?_⟩
  rw [beq_iff_eq, ← same]
  exact mem_entries_iff.1 hm

theorem delta?_mirror {α : Type} [DecidableEq α] (old new : α) :
    (delta? old new).map Delta.mirror = delta? new old := by
  by_cases same : old = new
  · rw [same, delta?_self]
    rfl
  · rw [delta?, delta?, if_neg same, if_neg (Ne.symm same)]
    rfl

theorem AttributeDeltas.get?_mirror (deltas : AttributeDeltas) (name : String) :
    OrderedMap.get? (mirror deltas) name = (OrderedMap.get? deltas name).map Delta.mirror := by
  apply Option.ext
  intro delta
  rw [← OrderedMap.mem_entries_iff, Option.map_eq_some_iff]
  simp only [mirror, List.mem_map, Prod.mk.injEq, Prod.exists, ← OrderedMap.mem_entries_iff]
  constructor
  · rintro ⟨name, before, hm, rfl, rfl⟩
    exact ⟨before, hm, rfl⟩
  · rintro ⟨before, hm, rfl⟩
    exact ⟨name, before, hm, rfl, rfl⟩

theorem attributeDelta?_mirror (options : CompareOptions) (old new : Node) (name : String) :
    ((attributeDelta? options old new name).map Prod.snd).map Delta.mirror =
      (attributeDelta? options new old name).map Prod.snd := by
  cases ignored : options.isIgnored name with
  | true => simp [attributeDelta?, ignored]
  | false =>
    by_cases same : old.attributeOrEmpty name = new.attributeOrEmpty name
    · simp [attributeDelta?, same]
    · simp [attributeDelta?, ignored, same, Ne.symm same, Delta.mirror]

/-- The difference of two nodes, seen from the other side. -/
theorem contentDelta_mirror (options : CompareOptions) (old new : Node) :
    (contentDelta options old new).mirror.Same (contentDelta options new old) where
  tag := delta?_mirror old.tag new.tag
  kind := delta?_mirror old.kind new.kind
  attributes := by
    refine OrderedMap.sameEntries_of_get?_eq fun name => ?_
    refine (AttributeDeltas.get?_mirror (attributeDeltas options old new) name).trans ?_
    rw [get?_attributeDeltas, attributeDelta?_mirror]
    exact (get?_attributeDeltas options new old name).symm

theorem Relocated.symm {oldNodes newNodes : List Node} {before after : Node}
    (moved : Relocated oldNodes newNodes before after) :
    Relocated newNodes oldNodes after before where
  before_mem := moved.after_mem
  after_mem := moved.before_mem
  vacated := moved.fresh
  fresh := moved.vacated
  same_signature := moved.same_signature.symm
  only_before := moved.only_after
  only_after := moved.only_before

/-- The change that the comparison the other way round reports instead. -/
def Change.converse (options : CompareOptions) : Change → Change
  | .modified old new _ => compareContent options new old
  | change => change.mirror

theorem converse_compareContent (options : CompareOptions) (old new : Node) :
    (compareContent options old new).converse options = compareContent options new old := by
  by_cases empty : (contentDelta options old new).isEmpty = true
  · rw [compareContent_eq_unchanged_iff.2 empty,
      compareContent_eq_unchanged_iff.2 (isEmpty_contentDelta_symm empty)]
    rfl
  · rw [compareContent]
    simp only [empty, Bool.false_eq_true, if_false]
    rfl

/-- The change of two nodes, seen from the other side, is that of the exchanged nodes. -/
theorem mirror_compareContent (options : CompareOptions) (old new : Node) :
    (compareContent options old new).mirror.Same (compareContent options new old) := by
  by_cases empty : (contentDelta options old new).isEmpty = true
  · rw [compareContent_eq_unchanged_iff.2 empty,
      compareContent_eq_unchanged_iff.2 (isEmpty_contentDelta_symm empty)]
    exact .refl _
  · have empty' : ¬ (contentDelta options new old).isEmpty = true :=
      fun other => empty (isEmpty_contentDelta_symm other)
    rw [compareContent, compareContent]
    simp only [empty, empty', Bool.false_eq_true, if_false]
    exact .modified (contentDelta_mirror options old new)

namespace Reported
variable {options : CompareOptions} {old new : List Node} {change : Change}

/-- What is reported of two trees is reported of the exchanged trees from the other side. -/
theorem converse (h : Reported options old new change) :
    Reported options new old (change.converse options) := by
  cases h with
  | matched ho hn path =>
    rw [converse_compareContent]
    exact .matched hn ho path.symm
  | moved moved => exact .moved moved.symm
  | removed ho vacated stays => exact .added ho vacated fun after moved => stays after moved.symm
  | added hn fresh stays => exact .removed hn fresh fun before moved => stays before moved.symm

theorem converse_converse (h : Reported options old new change) :
    (change.converse options).converse options = change := by
  cases h with
  | matched => rw [converse_compareContent, converse_compareContent]
  | _ => rfl

theorem mirror_same (h : Reported options old new change) :
    change.mirror.Same (change.converse options) := by
  cases h with
  | matched =>
    rw [converse_compareContent]
    exact mirror_compareContent options _ _
  | _ => exact .refl _

end Reported

/-- Two trees can be compared in both directions or in none, and the changes of one comparison, seen
from the other side, are those of the other, in some order. -/
theorem compareTrees_mirror (options : CompareOptions) (a b : Node) :
    ((∃ changes, compareTrees options a b = .ok changes) ↔
      ∃ changes, compareTrees options b a = .ok changes) ∧
    ∀ changes changes', compareTrees options a b = .ok changes →
      compareTrees options b a = .ok changes' →
        ∃ mirrored, List.Forall₂ Change.Same (changes.map Change.mirror) mirrored ∧
          mirrored.Perm changes' := by
  refine ⟨?_, fun changes changes' compared compared' => ?_⟩
  · rw [exists_changes_iff, exists_changes_iff]
    exact and_comm
  have reported {change : Change} :
      change ∈ changes ↔ Reported options a.preorder b.preorder change :=
    mem_changes_iff_reported compared
  have reported' {change : Change} :
      change ∈ changes' ↔ Reported options b.preorder a.preorder change :=
    mem_changes_iff_reported compared'
  refine ⟨changes.map (Change.converse options), ?_, ?_⟩
  · rw [List.forall₂_map_left_iff, List.forall₂_map_right_iff]
    exact List.forall₂_same.2 fun change hm => (reported.1 hm).mirror_same
  · have nodup : (changes.map (Change.converse options)).Nodup := by
      refine (nodup_changes compared).map_on fun change hm change' hm' same => ?_
      rw [← (reported.1 hm).converse_converse, same, (reported.1 hm').converse_converse]
    refine (List.perm_ext_iff_of_nodup nodup (nodup_changes compared')).2 fun change => ?_
    rw [List.mem_map, reported']
    constructor
    · rintro ⟨other, hm, rfl⟩
      exact (reported.1 hm).converse
    · intro h
      exact ⟨change.converse options, reported.2 h.converse, h.converse_converse⟩

theorem compareTrees_mirror_action :
    ∃ changes changes',
      compareTrees .all actionInFallback.build actionBehindFallback.build = .ok changes ∧
      compareTrees .all actionBehindFallback.build actionInFallback.build = .ok changes' ∧
      changes'.map Change.kind = [.unchanged, .unchanged, .moved] ∧
      ∃ mirrored, List.Forall₂ Change.Same (changes.map Change.mirror) mirrored ∧
        mirrored.Perm changes' := by
  obtain ⟨changes, compared⟩ : ∃ changes,
      compareTrees .all actionInFallback.build actionBehindFallback.build = .ok changes :=
    exists_changes_of_nodup .all (by decide) (by decide)
  obtain ⟨changes', compared', kinds⟩ : ∃ changes,
      compareTrees .all actionBehindFallback.build actionInFallback.build = .ok changes ∧
        changes.map Change.kind = [.unchanged, .unchanged, .moved] :=
    ⟨_, compareTrees_eq_ok_iff.2 ⟨⟨actionBehindFallback.build.preorder, by decide⟩,
      ⟨actionInFallback.build.preorder, by decide⟩, rfl, rfl, rfl⟩, by decide⟩
  exact ⟨changes, changes', compared, compared', kinds,
    (compareTrees_mirror .all _ _).2 changes changes' compared compared'⟩

end BehaviorDiff
