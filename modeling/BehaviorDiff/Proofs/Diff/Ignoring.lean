import BehaviorDiff.Diff.Documents
import BehaviorDiff.Proofs.Diff.Content

set_option autoImplicit false

/-!
Ignored attributes. To leave attributes out of a comparison is to compare everything and to delete
their deltas from the result: a modified node that keeps no difference becomes unchanged, and every
other change stays what it is. Moves are read off removed and added nodes and off signatures, which
count all attributes, so none is made or prevented.
-/

namespace BehaviorDiff

/-- The deltas of the attributes that count. -/
def AttributeDeltas.ignoring (options : CompareOptions) (deltas : AttributeDeltas) :
    AttributeDeltas where
  entries := deltas.entries.filter fun entry => !options.isIgnored entry.1
  nodup := deltas.nodup.sublist (List.filter_sublist.map Prod.fst)

/-- The difference without the attributes that are left out. -/
def ContentDelta.ignoring (options : CompareOptions) (delta : ContentDelta) : ContentDelta :=
  { delta with attributes := AttributeDeltas.ignoring options delta.attributes }

/-- The change without the attributes that are left out. -/
def Change.ignoring (options : CompareOptions) : Change → Change
  | .modified old new delta =>
    if (delta.ignoring options).isEmpty then .unchanged old new
    else .modified old new (delta.ignoring options)
  | change => change

/-- What is left of a changed reference without the attributes that are left out. -/
def ReferenceChange.ignoring? (options : CompareOptions) :
    ReferenceChange → Option ReferenceChange
  | .modified id deltas =>
    if OrderedMap.isEmpty (AttributeDeltas.ignoring options deltas) then none
    else some (.modified id (AttributeDeltas.ignoring options deltas))
  | change => some change

theorem Change.ignoring_modified (options : CompareOptions) (old new : Node)
    (delta : ContentDelta) :
    (Change.modified old new delta).ignoring options = .unchanged old new ∨
      (Change.modified old new delta).ignoring options =
        .modified old new (delta.ignoring options) := by
  rw [Change.ignoring]
  split
  · exact .inl rfl
  · exact .inr rfl

theorem attributeDelta?_ignoring (options : CompareOptions) (old new : Node) (name : String) :
    attributeDelta? options old new name =
      (attributeDelta? .all old new name).filter fun entry => !options.isIgnored entry.1 := by
  apply Option.ext
  intro entry
  rw [Option.filter_eq_some_iff, attributeDelta?_eq_some_iff, attributeDelta?_eq_some_iff]
  constructor
  · rintro ⟨counts, apart, rfl⟩
    exact ⟨⟨rfl, apart, rfl⟩, by simp [counts]⟩
  · rintro ⟨⟨-, apart, rfl⟩, counts⟩
    exact ⟨by simpa using counts, apart, rfl⟩

theorem attributeDeltas_ignoring (options : CompareOptions) (old new : Node) :
    attributeDeltas options old new =
      AttributeDeltas.ignoring options (attributeDeltas .all old new) := by
  apply OrderedMap.ext
  have single := funext (attributeDelta?_ignoring options old new)
  change (attributeDeltas options old new).entries =
    (attributeDeltas .all old new).entries.filter fun entry => !options.isIgnored entry.1
  rw [entries_attributeDeltas, entries_attributeDeltas, List.filter_filterMap, single]

/-- Where all attributes agree, those that count do. -/
theorem isEmpty_attributeDeltas_of_all (options : CompareOptions) {old new : Node}
    (empty : (attributeDeltas .all old new).isEmpty = true) :
    (attributeDeltas options old new).isEmpty = true := by
  rw [isEmpty_attributeDeltas_iff] at empty ⊢
  intro name
  have agree : old.attributeOrEmpty name = new.attributeOrEmpty name := by
    simpa [CompareOptions.all] using empty name
  exact .inr agree

theorem contentDelta_ignoring (options : CompareOptions) (old new : Node) :
    contentDelta options old new = (contentDelta .all old new).ignoring options := by
  rw [contentDelta, attributeDeltas_ignoring]
  rfl

theorem compareContent_ignoring (options : CompareOptions) (old new : Node) :
    compareContent options old new = (compareContent .all old new).ignoring options := by
  rcases compareContent_cases .all old new with ⟨h, empty⟩ | h
  · have fewer : (contentDelta options old new).isEmpty = true := by
      rw [isEmpty_contentDelta_iff, ← isEmpty_attributeDeltas_iff] at empty ⊢
      exact ⟨empty.1, empty.2.1, isEmpty_attributeDeltas_of_all options empty.2.2⟩
    rw [h, compareContent_eq_unchanged_iff.2 fewer]
    rfl
  · rw [h, compareContent, contentDelta_ignoring]
    rfl

theorem positionalChanges_ignoring (options : CompareOptions) (old new : PathIndex) :
    positionalChanges options old new =
      (positionalChanges .all old new).map (Change.ignoring options) := by
  rw [positionalChanges, positionalChanges, List.map_append, List.map_map, List.map_map]
  congr 1
  refine List.map_congr_left fun node _ => ?_
  rw [Function.comp_apply]
  cases new.get? node.path with
  | some other => exact compareContent_ignoring options node other
  | none => rfl

/-- What is read off the changes without a look at how a node differs stays the same. -/
theorem filterMap_map_ignoring {α : Type} {read : Change → Option α}
    (blind : ∀ old new delta, read (.modified old new delta) = read (.unchanged old new))
    (options : CompareOptions) (changes : List Change) :
    (changes.map (Change.ignoring options)).filterMap read = changes.filterMap read := by
  rw [List.filterMap_map]
  congr 1
  funext change
  rw [Function.comp_apply]
  cases change with
  | modified old new delta =>
    rcases Change.ignoring_modified options old new delta with h | h
    · rw [h, blind]
    · rw [h, blind, blind]
  | _ => rfl

namespace Moves

theorem removedPaths_ignoring (options : CompareOptions) (changes : List Change) :
    removedPaths (changes.map (Change.ignoring options)) = removedPaths changes :=
  filterMap_map_ignoring (fun _ _ _ => rfl) options changes

theorem addedPaths_ignoring (options : CompareOptions) (changes : List Change) :
    addedPaths (changes.map (Change.ignoring options)) = addedPaths changes :=
  filterMap_map_ignoring (fun _ _ _ => rfl) options changes

/-- A move takes no notice of the nodes that both trees have at one path. -/
theorem apply_ignoring (options : CompareOptions) (moves : List Move) (changes : List Change) :
    apply moves (changes.map (Change.ignoring options)) =
      (apply moves changes).map (Change.ignoring options) := by
  rw [apply, apply, List.filterMap_map, List.map_filterMap]
  congr 1
  funext change
  rw [Function.comp_apply]
  cases change with
  | modified old new delta =>
    rcases Change.ignoring_modified options old new delta with h | h <;> simp [h]
  | removed old =>
    cases found : moves.find? fun move => move.old.path == old.path with
    | none => simp [found, Change.ignoring]
    | some move => simp [found, Change.ignoring]
  | added new =>
    cases found : moves.any fun move => move.new.path == new.path with
    | false => simp [found, Change.ignoring]
    | true => simp [found, Change.ignoring]
  | _ => rfl

theorem resolve_ignoring (options : CompareOptions) (old new : PathIndex)
    (changes : List Change) :
    resolve old new (changes.map (Change.ignoring options)) =
      (resolve old new changes).map (Change.ignoring options) := by
  rw [resolve, resolve, resolveIn, resolveIn, removedPaths_ignoring, addedPaths_ignoring,
    apply_ignoring]

end Moves

theorem compareTrees_ignoring (options : CompareOptions) (old new : Node) :
    compareTrees options old new =
      (compareTrees .all old new).map (List.map (Change.ignoring options)) := by
  unfold compareTrees
  cases PathIndex.ofTree .old old with
  | error error => rfl
  | ok oldIndex =>
    cases PathIndex.ofTree .new new with
    | error error => rfl
    | ok newIndex =>
      change Except.ok (Moves.resolve oldIndex newIndex _) = Except.ok (List.map _ _)
      rw [positionalChanges_ignoring, Moves.resolve_ignoring]

theorem referenceChange?_ignoring (options : CompareOptions)
    (newReferences : OrderedMap String Node) (id : String) (old : Node) :
    referenceChange? options newReferences id old =
      (referenceChange? .all newReferences id old).bind (ReferenceChange.ignoring? options) := by
  rw [referenceChange?, referenceChange?]
  cases newReferences.get? id with
  | none => rfl
  | some new =>
    by_cases empty : (attributeDeltas .all old new).isEmpty = true
    · have fewer := isEmpty_attributeDeltas_of_all options empty
      simp only [if_pos empty, if_pos fewer, Option.bind_none]
    · simp only [if_neg empty, Option.bind_some, ReferenceChange.ignoring?,
        attributeDeltas_ignoring options]

theorem referenceChanges_ignoring (options : CompareOptions) (old new : Document) :
    referenceChanges options old new =
      (referenceChanges .all old new).filterMap (ReferenceChange.ignoring? options) := by
  have added : ReferenceChange.ignoring? options ∘ ReferenceChange.added =
      some ∘ ReferenceChange.added := rfl
  have each := fun entry : String × Node =>
    referenceChange?_ignoring options new.references entry.1 entry.2
  simp only [referenceChanges, List.filterMap_append, List.filterMap_filterMap, List.filterMap_map,
    added, List.filterMap_eq_map, each]

/-- To leave attributes out of a comparison is to compare everything and to delete their deltas: the
same trees fail in the same way, every change stays in its place, and only modified nodes lose
deltas. References to trees lose theirs likewise, and drop out if nothing else differs. -/
theorem comparison_deletes_ignored (options : CompareOptions) :
    (∀ old new : Node, compareTrees options old new =
      (compareTrees .all old new).map (List.map (Change.ignoring options))) ∧
    ∀ old new : Document, referenceChanges options old new =
      (referenceChanges .all old new).filterMap (ReferenceChange.ignoring? options) :=
  ⟨compareTrees_ignoring options, referenceChanges_ignoring options⟩

end BehaviorDiff
