import BehaviorDiff.Proofs.Diff.Mirror

set_option autoImplicit false

/-!
Attribute deltas as a patch. They name every attribute that counts and has two values, each once,
and nothing else. So writing the new sides over the attributes of the old node gives the values of
the new one, writing the old sides over those of the new node takes the change back, and the deltas
of the exchanged nodes are the same ones with their sides exchanged.
-/

namespace BehaviorDiff

/-- Whether an attribute counts and has two values. -/
def differs (options : CompareOptions) (old new : Node) (name : String) : Bool :=
  !options.isIgnored name && old.attributeOrEmpty name != new.attributeOrEmpty name

/-- A node with one side of each delta written over its attributes. -/
def Node.overwrite (node : Node) (deltas : AttributeDeltas) (side : Delta String → String) : Node :=
  { node with
    attributes := deltas.entries.foldl (fun found entry => found.insert entry.1 (side entry.2))
      node.attributes }

theorem differs_iff {options : CompareOptions} {old new : Node} {name : String} :
    differs options old new name = true ↔
      options.isIgnored name = false ∧ old.attributeOrEmpty name ≠ new.attributeOrEmpty name := by
  simp [differs]

theorem attributeDelta?_of_differs {options : CompareOptions} {old new : Node} {name : String}
    (apart : differs options old new name = true) :
    attributeDelta? options old new name =
      some (name, ⟨old.attributeOrEmpty name, new.attributeOrEmpty name⟩) := by
  obtain ⟨counts, apart⟩ := differs_iff.1 apart
  exact attributeDelta?_eq_some_iff.2 ⟨counts, apart, rfl⟩

theorem attributeDelta?_of_not_differs {options : CompareOptions} {old new : Node} {name : String}
    (alike : differs options old new name = false) :
    attributeDelta? options old new name = none := by
  rw [attributeDelta?_eq_none_iff]
  rw [← Bool.not_eq_true, differs_iff] at alike
  cases ignored : options.isIgnored name with
  | true => exact .inl rfl
  | false => exact .inr (Decidable.not_not.1 fun apart => alike ⟨ignored, apart⟩)

/-- A name has a delta exactly if it counts and has two values, and the delta holds them. -/
theorem get?_attributeDeltas_eq_some_iff {options : CompareOptions} {old new : Node}
    {name : String} {delta : Delta String} :
    (attributeDeltas options old new).get? name = some delta ↔
      differs options old new name = true ∧
        delta = ⟨old.attributeOrEmpty name, new.attributeOrEmpty name⟩ := by
  rw [get?_attributeDeltas, Option.map_eq_some_iff]
  constructor
  · rintro ⟨entry, found, rfl⟩
    obtain ⟨counts, apart, rfl⟩ := attributeDelta?_eq_some_iff.1 found
    exact ⟨differs_iff.2 ⟨counts, apart⟩, rfl⟩
  · rintro ⟨apart, rfl⟩
    exact ⟨_, attributeDelta?_of_differs apart, rfl⟩

/-- The names of the deltas are those of both nodes that differ, in the order of the names. -/
theorem keys_attributeDeltas (options : CompareOptions) (old new : Node) :
    (attributeDeltas options old new).keys =
      (attributeNames old new).filter (differs options old new) := by
  rw [OrderedMap.keys, entries_attributeDeltas]
  induction attributeNames old new with
  | nil => rfl
  | cons name rest ih =>
    rw [List.filterMap_cons, List.filter_cons]
    cases apart : differs options old new name with
    | true =>
      rw [attributeDelta?_of_differs apart, if_pos rfl]
      exact congrArg (name :: ·) ih
    | false =>
      rw [attributeDelta?_of_not_differs apart, if_neg Bool.false_ne_true]
      exact ih

/-- Writing entries over a map gives their values to their keys and leaves all other keys alone. -/
theorem OrderedMap.get?_foldl_insert_map {κ ν μ : Type} [DecidableEq κ] (side : ν → μ)
    {entries : List (κ × ν)} (nodup : (entries.map Prod.fst).Nodup) (m : OrderedMap κ μ)
    (key : κ) :
    (entries.foldl (fun found entry => found.insert entry.1 (side entry.2)) m).get? key =
      ((entries.lookup key).map side).or (m.get? key) := by
  induction entries generalizing m with
  | nil => rfl
  | cons entry rest ih =>
    obtain ⟨k, v⟩ := entry
    rw [List.map_cons, List.nodup_cons] at nodup
    rw [List.foldl_cons, ih nodup.2, get?_insert]
    by_cases here : key = k
    · subst here
      have absent : rest.lookup key = none := by
        rw [List.lookup_eq_none_iff]
        intro entry hm
        have apart : key ≠ entry.1 := fun same =>
          nodup.1 (List.mem_map.2 ⟨entry, hm, same.symm⟩)
        simpa using apart
      simp [absent]
    · simp [List.lookup_cons, beq_false_of_ne here, here]

section Overwrite
variable (options : CompareOptions) (old new : Node)

/-- An attribute with a delta gets one side of it, and every other attribute keeps its value. -/
theorem attributeOrEmpty_overwrite (node : Node) (side : Delta String → String) (name : String) :
    (node.overwrite (attributeDeltas options old new) side).attributeOrEmpty name =
      if differs options old new name then
        side ⟨old.attributeOrEmpty name, new.attributeOrEmpty name⟩
      else node.attributeOrEmpty name := by
  have written : (node.overwrite (attributeDeltas options old new) side).attributes.get? name =
      (((attributeDeltas options old new).get? name).map side).or (node.attributes.get? name) :=
    OrderedMap.get?_foldl_insert_map side (attributeDeltas options old new).nodup _ name
  rw [Node.attributeOrEmpty, Node.attribute?, written, get?_attributeDeltas]
  cases apart : differs options old new name with
  | true =>
    rw [attributeDelta?_of_differs apart, if_pos rfl]
    rfl
  | false =>
    rw [attributeDelta?_of_not_differs apart, if_neg Bool.false_ne_true]
    rfl

/-- Where two nodes agree nothing is written, so what is written decides all attributes but the
ignored ones. -/
theorem ite_differs_eq_ite_ignored (name : String) {before after : String}
    (kept : old.attributeOrEmpty name = new.attributeOrEmpty name → before = after) :
    (if differs options old new name then after else before) =
      if options.isIgnored name then before else after := by
  cases ignored : options.isIgnored name with
  | true => simp [differs, ignored]
  | false =>
    by_cases same : old.attributeOrEmpty name = new.attributeOrEmpty name
    · simp [differs, same, kept same]
    · simp [differs, ignored, same]

/-- The deltas of the exchanged nodes have their sides exchanged. -/
theorem get?_attributeDeltas_mirror (name : String) :
    (attributeDeltas options new old).get? name =
      ((attributeDeltas options old new).get? name).map Delta.mirror := by
  rw [get?_attributeDeltas, get?_attributeDeltas, attributeDelta?_mirror]

/-- The deltas of the exchanged nodes are those of the same attributes. -/
theorem keys_attributeDeltas_perm :
    (attributeDeltas options new old).keys.Perm (attributeDeltas options old new).keys := by
  refine (List.perm_ext_iff_of_nodup (OrderedMap.keys_nodup _) (OrderedMap.keys_nodup _)).2 ?_
  intro name
  rw [← OrderedMap.contains_iff, ← OrderedMap.contains_iff, OrderedMap.contains,
    OrderedMap.contains, get?_attributeDeltas_mirror, Option.isSome_map]

end Overwrite

/-- The deltas of two nodes hold the two values of every attribute that counts and has two of them,
those of the old node first; written over either node they give the values of the other, and for the
exchanged nodes they are the same with their sides exchanged. -/
theorem attributeDeltas_lead_both_ways (options : CompareOptions) (old new : Node) :
    (∀ name delta, (attributeDeltas options old new).get? name = some delta ↔
      options.isIgnored name = false ∧ old.attributeOrEmpty name ≠ new.attributeOrEmpty name ∧
        delta = ⟨old.attributeOrEmpty name, new.attributeOrEmpty name⟩) ∧
    ((attributeDeltas options old new).keys.Nodup ∧
      (attributeDeltas options old new).keys =
        old.attributes.keys.filter (differs options old new) ++
          (new.attributes.keys.filter fun name => !old.attributes.contains name).filter
            (differs options old new)) ∧
    (∀ name, (old.overwrite (attributeDeltas options old new) Delta.new).attributeOrEmpty name =
      if options.isIgnored name then old.attributeOrEmpty name else new.attributeOrEmpty name) ∧
    (∀ name, (new.overwrite (attributeDeltas options old new) Delta.old).attributeOrEmpty name =
      if options.isIgnored name then new.attributeOrEmpty name else old.attributeOrEmpty name) ∧
    (attributeDeltas options new old).keys.Perm (attributeDeltas options old new).keys ∧
      ∀ name, (attributeDeltas options new old).get? name =
        ((attributeDeltas options old new).get? name).map Delta.mirror := by
  refine ⟨fun name delta => ?_, ⟨OrderedMap.keys_nodup _, ?_⟩, fun name => ?_, fun name => ?_,
    keys_attributeDeltas_perm options old new, get?_attributeDeltas_mirror options old new⟩
  · rw [get?_attributeDeltas_eq_some_iff, differs_iff, and_assoc]
  · rw [keys_attributeDeltas, attributeNames, List.filter_append]
  · rw [attributeOrEmpty_overwrite]
    exact ite_differs_eq_ite_ignored options old new name id
  · rw [attributeOrEmpty_overwrite]
    exact ite_differs_eq_ite_ignored options old new name Eq.symm

end BehaviorDiff
