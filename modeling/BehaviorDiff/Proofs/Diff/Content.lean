import BehaviorDiff.Proofs.Diff.Positions

set_option autoImplicit false

/-!
What the comparison of two nodes finds. The attribute deltas hold one entry for each attribute that
counts and has two values, a missing attribute being empty; nodes of one tag and kind without such
an attribute are unchanged.
-/

namespace BehaviorDiff

/-- The identity is the value of the identity attribute, if that is not empty. -/
theorem Attributes.id?_eq (attributes : Attributes) :
    attributes.id? = (some ((attributes.get? idAttribute).getD "")).filter (· ≠ "") := by
  rw [Attributes.id?]
  cases attributes.get? idAttribute with
  | none => rfl
  | some id => rfl

theorem delta?_self {α : Type} [DecidableEq α] (a : α) : delta? a a = none := if_pos rfl

theorem delta?_eq_none_iff {α : Type} [DecidableEq α] {a b : α} : delta? a b = none ↔ a = b := by
  unfold delta?
  split
  · next same => simp [same]
  · next apart => simp [apart]

theorem attributeDelta?_eq_none_iff {options : CompareOptions} {old new : Node} {name : String} :
    attributeDelta? options old new name = none ↔
      options.isIgnored name = true ∨ old.attributeOrEmpty name = new.attributeOrEmpty name := by
  cases ignored : options.isIgnored name <;> simp [attributeDelta?, ignored]

theorem attributeDelta?_eq_some_iff {options : CompareOptions} {old new : Node} {name : String}
    {entry : String × Delta String} :
    attributeDelta? options old new name = some entry ↔
      options.isIgnored name = false ∧ old.attributeOrEmpty name ≠ new.attributeOrEmpty name ∧
        entry = (name, ⟨old.attributeOrEmpty name, new.attributeOrEmpty name⟩) := by
  cases ignored : options.isIgnored name with
  | true => simp [attributeDelta?, ignored]
  | false =>
    by_cases same : old.attributeOrEmpty name = new.attributeOrEmpty name
    · simp [attributeDelta?, ignored, same]
    · have here : attributeDelta? options old new name =
          some (name, ⟨old.attributeOrEmpty name, new.attributeOrEmpty name⟩) := by
        simp [attributeDelta?, ignored, same]
      rw [here, Option.some.injEq]
      exact ⟨fun entry => ⟨rfl, same, entry.symm⟩, fun found => found.2.2.symm⟩

theorem nodup_attributeNames (old new : Node) : (attributeNames old new).Nodup := by
  refine List.nodup_append.2 ⟨old.attributes.keys_nodup, new.attributes.keys_nodup.filter _, ?_⟩
  intro name hm name' hm' same
  subst same
  rw [← OrderedMap.contains_iff] at hm
  simp [hm] at hm'

theorem mem_attributeNames_iff {old new : Node} {name : String} :
    name ∈ attributeNames old new ↔ name ∈ old.attributes.keys ∨ name ∈ new.attributes.keys := by
  rw [attributeNames, List.mem_append, List.mem_filter, Bool.not_eq_true', ← Bool.not_eq_true,
    OrderedMap.contains_iff]
  by_cases known : name ∈ old.attributes.keys
  · simp [known]
  · simp [known]

private theorem attributeOrEmpty_of_notMem {node : Node} {name : String}
    (absent : name ∉ node.attributes.keys) : node.attributeOrEmpty name = "" := by
  rw [← OrderedMap.contains_iff, OrderedMap.contains, Bool.not_eq_true, Option.isSome_eq_false_iff,
    Option.isNone_iff_eq_none] at absent
  rw [Node.attributeOrEmpty, Node.attribute?, absent]
  rfl

/-- An attribute that neither node has is empty in both. -/
theorem attributeOrEmpty_eq_of_notMem {old new : Node} {name : String}
    (absent : name ∉ attributeNames old new) :
    old.attributeOrEmpty name = new.attributeOrEmpty name := by
  rw [mem_attributeNames_iff, not_or] at absent
  rw [attributeOrEmpty_of_notMem absent.1, attributeOrEmpty_of_notMem absent.2]

/-- The deltas are those of the names of both nodes, in the order of the names. -/
theorem entries_attributeDeltas (options : CompareOptions) (old new : Node) :
    (attributeDeltas options old new).entries =
      (attributeNames old new).filterMap (attributeDelta? options old new) := by
  refine OrderedMap.entries_ofList ?_
  rw [List.Nodup, List.pairwise_map, List.pairwise_filterMap]
  refine (nodup_attributeNames old new).imp ?_
  intro name name' apart entry found entry' found'
  obtain ⟨-, -, rfl⟩ := attributeDelta?_eq_some_iff.1 found
  obtain ⟨-, -, rfl⟩ := attributeDelta?_eq_some_iff.1 found'
  exact apart

/-- Every name has the delta of its two values, if it counts and there is one. -/
theorem get?_attributeDeltas (options : CompareOptions) (old new : Node) (name : String) :
    (attributeDeltas options old new).get? name =
      (attributeDelta? options old new name).map Prod.snd := by
  apply Option.ext
  intro delta
  rw [← OrderedMap.mem_entries_iff, entries_attributeDeltas, List.mem_filterMap,
    Option.map_eq_some_iff]
  constructor
  · rintro ⟨name', -, found⟩
    obtain ⟨-, -, entry⟩ := attributeDelta?_eq_some_iff.1 found
    obtain ⟨rfl, -⟩ := Prod.mk.inj entry
    exact ⟨_, found, rfl⟩
  · rintro ⟨entry, found, rfl⟩
    obtain ⟨counts, apart, rfl⟩ := attributeDelta?_eq_some_iff.1 found
    refine ⟨name, Decidable.not_not.1 fun absent => ?_, found⟩
    exact apart (attributeOrEmpty_eq_of_notMem absent)

/-- There is no delta exactly if every attribute that counts has one value. -/
theorem isEmpty_attributeDeltas_iff {options : CompareOptions} {old new : Node} :
    (attributeDeltas options old new).isEmpty = true ↔
      ∀ name, options.isIgnored name = true ∨
        old.attributeOrEmpty name = new.attributeOrEmpty name := by
  rw [OrderedMap.isEmpty, List.isEmpty_iff, entries_attributeDeltas, List.filterMap_eq_nil_iff]
  simp only [attributeDelta?_eq_none_iff]
  constructor
  · intro all name
    by_cases known : name ∈ attributeNames old new
    · exact all name known
    · exact .inr (attributeOrEmpty_eq_of_notMem known)
  · intro all name _
    exact all name

/-- Two nodes agree if they have one tag and kind and all attributes that count. -/
theorem isEmpty_contentDelta_iff {options : CompareOptions} {old new : Node} :
    (contentDelta options old new).isEmpty = true ↔
      old.tag = new.tag ∧ old.kind = new.kind ∧
        ∀ name, options.isIgnored name = true ∨
          old.attributeOrEmpty name = new.attributeOrEmpty name := by
  rw [← isEmpty_attributeDeltas_iff, ContentDelta.isEmpty, Bool.and_eq_true, Bool.and_eq_true,
    Option.isNone_iff_eq_none, Option.isNone_iff_eq_none, and_assoc]
  exact and_congr delta?_eq_none_iff (and_congr delta?_eq_none_iff Iff.rfl)

theorem isEmpty_contentDelta_symm {options : CompareOptions} {old new : Node}
    (empty : (contentDelta options old new).isEmpty = true) :
    (contentDelta options new old).isEmpty = true := by
  rw [isEmpty_contentDelta_iff] at empty ⊢
  exact ⟨empty.1.symm, empty.2.1.symm, fun name => (empty.2.2 name).imp_right Eq.symm⟩

theorem compareContent_eq_unchanged_iff {options : CompareOptions} {old new : Node} :
    compareContent options old new = .unchanged old new ↔
      (contentDelta options old new).isEmpty = true := by
  rcases compareContent_cases options old new with ⟨h, empty⟩ | h
  · simp [h, empty]
  · constructor
    · intro unchanged
      rw [h] at unchanged
      cases unchanged
    · intro empty
      rw [compareContent]
      exact if_pos empty

theorem kind_compareContent_eq_unchanged_iff {options : CompareOptions} {old new : Node} :
    (compareContent options old new).kind = .unchanged ↔
      (contentDelta options old new).isEmpty = true := by
  rw [← compareContent_eq_unchanged_iff]
  rcases compareContent_cases options old new with ⟨h, -⟩ | h
  · simp [h, Change.kind]
  · simp [h, Change.kind]

end BehaviorDiff
