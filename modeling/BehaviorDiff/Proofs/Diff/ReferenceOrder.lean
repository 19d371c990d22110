import BehaviorDiff.Proofs.Diff.References
import BehaviorDiff.Proofs.Tree.Chain

set_option autoImplicit false

/-!
The changed references as a list. The references of a document are the identities of its subtree
nodes in the order in which they first occur, each with the node at which it does, and the order of
the changes follows theirs: what the old document refers to comes first, in its order, and what only
the new one refers to comes behind, in the new order. So no identity is reported twice.
-/

namespace BehaviorDiff

/-- The tree that a node refers to, if it is a subtree node with an identity. -/
def Node.reference? (node : Node) : Option String :=
  if node.kind = .subtree then node.attributes.id? else none

theorem Node.reference?_eq_some_iff {node : Node} {id : String} :
    node.reference? = some id ↔ node.RefersTo id := by
  constructor
  · intro found
    rw [Node.reference?, Option.ite_none_right_eq_some] at found
    exact ⟨found.1, found.2⟩
  · intro refers
    rw [Node.reference?, if_pos refers.kind]
    exact refers.identity

section FirstEntries
variable {κ ν : Type} [DecidableEq κ]

theorem OrderedMap.keys_keep (found : OrderedMap κ ν) (entry : κ × ν) :
    (found.keep entry).keys = (found.insert entry.1 entry.2).keys := by
  rw [keep, keys_insert]
  by_cases known : entry.1 ∈ found.keys
  · rw [if_pos (contains_iff.2 known), if_pos known]
  · rw [if_neg (mt contains_iff.1 known), if_neg known, keys_insert, if_neg known]

/-- Whether an earlier value is kept or replaced, the keys come in one order. -/
theorem OrderedMap.keys_foldl_keep (entries : List (κ × ν)) {kept written : OrderedMap κ ν}
    (same : kept.keys = written.keys) :
    (entries.foldl keep kept).keys =
      (entries.foldl (fun m entry => m.insert entry.1 entry.2) written).keys := by
  induction entries generalizing kept written with
  | nil => exact same
  | cons entry rest ih =>
    rw [List.foldl_cons, List.foldl_cons]
    refine ih ?_
    rw [keys_keep, keys_insert, keys_insert, same]

end FirstEntries

/-- The first entry of a key, among values that are entered under what is read off them. -/
theorem lookup_filterMap_key {κ ν : Type} [DecidableEq κ] (key? : ν → Option κ) (values : List ν)
    (key : κ) :
    (values.filterMap fun value => (key? value).map fun key => (key, value)).lookup key =
      values.find? fun value => key? value = some key := by
  induction values with
  | nil => rfl
  | cons value rest ih =>
    cases here : key? value with
    | none => simp [here, ih]
    | some other =>
      by_cases same : key = other
      · simp [here, same]
      · simp [here, Ne.symm same, beq_eq_false_iff_ne.2 same, List.lookup_cons, ih]

namespace Document

/-- The nodes of all trees, in document pre-order. -/
def preorder (document : Document) : List Node :=
  document.definitions.flatMap fun entry => entry.2.preorder

/-- What the nodes of a document refer to, in the order in which it first occurs. -/
def referredIds (document : Document) : List String :=
  (document.preorder.filterMap Node.reference?).eraseDups

/-- The node is the first of its document that refers to the given tree. -/
structure FirstRefers (document : Document) (id : String) (node : Node) : Prop where
  refers : node.RefersTo id
  first : ∃ before after, document.preorder = before ++ node :: after ∧
    ∀ other ∈ before, ¬ other.RefersTo id

theorem subtreeNodes_eq (document : Document) :
    document.subtreeNodes =
      document.preorder.filterMap fun node => node.reference?.map fun id => (id, node) := by
  rw [subtreeNodes, preorder, List.filterMap_flatMap]
  congr 1
  funext entry
  rw [Node.nodes_eq_preorder, List.filterMap_filter]
  congr 1
  funext node
  by_cases subtree : node.kind = .subtree <;> simp [Node.reference?, subtree]

theorem keys_references (document : Document) :
    document.references.keys = document.referredIds := by
  have folded : document.references.keys = (OrderedMap.ofList document.subtreeNodes).keys :=
    OrderedMap.keys_foldl_keep document.subtreeNodes rfl
  rw [folded, OrderedMap.keys_ofList, referredIds, subtreeNodes_eq, List.map_filterMap]
  congr 2
  funext node
  rw [Option.map_map]
  exact Option.map_id'

theorem get?_references_eq_some_iff {document : Document} {id : String} {node : Node} :
    document.references.get? id = some node ↔ document.FirstRefers id node := by
  rw [get?_references, subtreeNodes_eq, lookup_filterMap_key, List.find?_eq_some_iff_append]
  simp only [decide_eq_true_eq, Bool.not_eq_true', decide_eq_false_iff_not,
    Node.reference?_eq_some_iff]
  exact ⟨fun ⟨refers, before, after, split, first⟩ => ⟨refers, before, after, split, first⟩,
    fun ⟨refers, before, after, split, first⟩ => ⟨refers, before, after, split, first⟩⟩

theorem mem_referredIds_iff {document : Document} {id : String} :
    id ∈ document.referredIds ↔ ∃ node, document.FirstRefers id node := by
  rw [← keys_references, ← OrderedMap.contains_iff, OrderedMap.contains, Option.isSome_iff_exists]
  simp only [get?_references_eq_some_iff]

theorem get?_references_eq_none_iff {document : Document} {id : String} :
    document.references.get? id = none ↔ id ∉ document.referredIds := by
  rw [← keys_references, ← OrderedMap.contains_iff, OrderedMap.contains, Bool.not_eq_true,
    Option.isSome_eq_false_iff, Option.isNone_iff_eq_none]

theorem nodup_referredIds (document : Document) : document.referredIds.Nodup := by
  rw [← keys_references]
  exact document.references.keys_nodup

end Document

/-- In a built tree the nodes that refer to a tree are those with the tag of a reference and the
identity of the tree. -/
theorem refersTo_iff_of_mem_build {draft : Draft} {node : Node} (hm : node ∈ draft.build.preorder)
    (id : String) :
    node.RefersTo id ↔ node.tag = "SubTree" ∧ node.attribute? "ID" = some id ∧ id ≠ "" := by
  have kind : node.kind = .subtree ↔ node.tag = "SubTree" := by
    rw [kind_of_mem_build hm, NodeKind.classify]
    constructor
    · intro subtree
      split_ifs at subtree with control decorator reference
      exact reference
    · intro reference
      rw [reference]
      decide
  have identity : node.attributes.id? = some id ↔ node.attribute? "ID" = some id ∧ id ≠ "" := by
    rw [Attributes.id?, Option.filter_eq_some_iff, decide_eq_true_eq]
    rfl
  rw [← kind, ← identity]
  exact ⟨fun refers => ⟨refers.kind, refers.identity⟩, fun both => ⟨both.1, both.2⟩⟩

/-- What is reported of a reference that the old document makes. -/
inductive OldReferenceReported (options : CompareOptions) (old new : Document) :
    ReferenceChange → Prop
  | removed {id : String} : id ∈ old.referredIds → id ∉ new.referredIds →
      OldReferenceReported options old new (.removed id)
  | modified {id : String} {before after : Node} : old.FirstRefers id before →
      new.FirstRefers id after → (attributeDeltas options before after).isEmpty = false →
        OldReferenceReported options old new (.modified id (attributeDeltas options before after))

section Changes
variable (options : CompareOptions) (old new : Document)

/-- The changes of the references that the old document makes, in its order. -/
def oldReferenceChanges : List ReferenceChange :=
  old.references.entries.filterMap fun entry =>
    referenceChange? options new.references entry.1 entry.2

variable {options old new} in
theorem referenceChange?_eq_some_iff {references : OrderedMap String Node} {id : String}
    {before : Node} {change : ReferenceChange} :
    referenceChange? options references id before = some change ↔
      (references.get? id = none ∧ change = .removed id) ∨
        ∃ after, references.get? id = some after ∧
          (attributeDeltas options before after).isEmpty = false ∧
            change = .modified id (attributeDeltas options before after) := by
  rw [referenceChange?]
  cases references.get? id with
  | none => simpa using eq_comm
  | some after =>
    cases differ : (attributeDeltas options before after).isEmpty with
    | true => simp [differ]
    | false => simpa [differ] using eq_comm

variable {options old new} in
theorem mem_oldReferenceChanges_iff {change : ReferenceChange} :
    change ∈ oldReferenceChanges options old new ↔
      OldReferenceReported options old new change := by
  rw [oldReferenceChanges, List.mem_filterMap]
  constructor
  · rintro ⟨⟨id, before⟩, hm, reported⟩
    have first := Document.get?_references_eq_some_iff.1 (OrderedMap.mem_entries_iff.1 hm)
    rcases referenceChange?_eq_some_iff.1 reported with ⟨absent, rfl⟩ | ⟨after, here, differ, rfl⟩
    · exact .removed (Document.mem_referredIds_iff.2 ⟨before, first⟩)
        (Document.get?_references_eq_none_iff.1 absent)
    · exact .modified first (Document.get?_references_eq_some_iff.1 here) differ
  · intro reported
    cases reported with
    | @removed id known absent =>
      obtain ⟨before, first⟩ := Document.mem_referredIds_iff.1 known
      exact ⟨(id, before),
        OrderedMap.mem_entries_iff.2 (Document.get?_references_eq_some_iff.2 first),
        referenceChange?_eq_some_iff.2 (.inl ⟨Document.get?_references_eq_none_iff.2 absent, rfl⟩)⟩
    | @modified id before after first first' differ =>
      exact ⟨(id, before),
        OrderedMap.mem_entries_iff.2 (Document.get?_references_eq_some_iff.2 first),
        referenceChange?_eq_some_iff.2
          (.inr ⟨after, Document.get?_references_eq_some_iff.2 first', differ, rfl⟩)⟩

/-- What is reported of the old references keeps their order. -/
theorem sublist_oldReferenceChanges :
    ((oldReferenceChanges options old new).map ReferenceChange.id).Sublist old.referredIds := by
  have named {id : String} {before : Node} {change : ReferenceChange}
      (reported : referenceChange? options new.references id before = some change) :
      change.id = id := by
    rcases referenceChange?_eq_some_iff.1 reported with ⟨-, rfl⟩ | ⟨after, -, -, rfl⟩ <;> rfl
  rw [← Document.keys_references, oldReferenceChanges]
  change List.Sublist _ (old.references.entries.map Prod.fst)
  induction old.references.entries with
  | nil => exact .slnil
  | cons entry rest ih =>
    rw [List.filterMap_cons]
    cases reported : referenceChange? options new.references entry.1 entry.2 with
    | none => exact ih.cons entry.1
    | some change =>
      rw [List.map_cons, List.map_cons, named reported]
      exact ih.cons_cons entry.1

theorem referenceChanges_eq :
    referenceChanges options old new = oldReferenceChanges options old new ++
      (new.referredIds.filter (· ∉ old.referredIds)).map .added := by
  have fresh : (new.references.keys.filter fun id => !old.references.contains id) =
      new.referredIds.filter (· ∉ old.referredIds) := by
    rw [Document.keys_references]
    refine List.filter_congr fun id _ => ?_
    rw [Bool.eq_iff_iff, Bool.not_eq_true', ← Bool.not_eq_true, OrderedMap.contains_iff,
      Document.keys_references, decide_eq_true_eq]
  rw [← fresh]
  rfl

/-- No reference is reported twice. -/
theorem nodup_ids_referenceChanges :
    ((referenceChanges options old new).map ReferenceChange.id).Nodup := by
  have fresh : ((new.referredIds.filter (· ∉ old.referredIds)).map ReferenceChange.added).map
      ReferenceChange.id = new.referredIds.filter (· ∉ old.referredIds) := by
    rw [List.map_map]
    exact List.map_id _
  have kept := sublist_oldReferenceChanges options old new
  rw [referenceChanges_eq, List.map_append, fresh, List.nodup_append]
  refine ⟨old.nodup_referredIds.sublist kept, new.nodup_referredIds.filter _, ?_⟩
  intro id hm id' hm' same
  subst same
  exact absurd (kept.subset hm) (by simpa using (List.mem_filter.1 hm').2)

/-- A document makes the same references as itself. -/
theorem referenceChanges_self (document : Document) :
    referenceChanges options document document = [] := by
  refine List.eq_nil_iff_forall_not_mem.2 fun change hm => ?_
  rw [referenceChanges_eq, List.mem_append] at hm
  rcases hm with hm | hm
  · cases mem_oldReferenceChanges_iff.1 hm with
    | removed known absent => exact absent known
    | @modified id before after first first' differ =>
      rw [← Document.get?_references_eq_some_iff] at first first'
      cases first.symm.trans first'
      rw [isEmpty_attributeDeltas_iff.2 fun name => .inr rfl] at differ
      cases differ
  · obtain ⟨id, fresh, -⟩ := List.mem_map.1 hm
    obtain ⟨known, absent⟩ := List.mem_filter.1 fresh
    exact absurd known (by simpa using absent)

end Changes

/-- The references of a document are the identities of its subtree nodes in the order in which they
first occur, each with the first node that has it; in a built tree these nodes are known by their
tag. The changed references begin with those that the old document makes, in its order: removed if
the new one does not make them, modified if the attributes of the two first nodes differ. The
references that only the new document makes come behind, as added, in the new order. No reference is
reported twice, and none between a document and itself. -/
theorem referenceChanges_follow_references (options : CompareOptions) (old new : Document) :
    (∀ document : Document, document.references.keys = document.referredIds ∧
      ∀ id node, document.references.get? id = some node ↔ document.FirstRefers id node) ∧
    (∀ (draft : Draft), ∀ node ∈ draft.build.preorder, ∀ id,
      node.RefersTo id ↔ node.tag = "SubTree" ∧ node.attribute? "ID" = some id ∧ id ≠ "") ∧
    (∃ kept, referenceChanges options old new =
        kept ++ (new.referredIds.filter (· ∉ old.referredIds)).map .added ∧
      (kept.map ReferenceChange.id).Sublist old.referredIds ∧
      ∀ change, change ∈ kept ↔ OldReferenceReported options old new change) ∧
    ((referenceChanges options old new).map ReferenceChange.id).Nodup ∧
    ∀ document, referenceChanges options document document = [] :=
  ⟨fun document => ⟨document.keys_references, fun _ _ => Document.get?_references_eq_some_iff⟩,
    fun _ _ hm id => refersTo_iff_of_mem_build hm id,
    ⟨oldReferenceChanges options old new, referenceChanges_eq options old new,
      sublist_oldReferenceChanges options old new, fun _ => mem_oldReferenceChanges_iff⟩,
    nodup_ids_referenceChanges options old new, referenceChanges_self options⟩

/-- A reference to a tree, at a speed. -/
def callOf (id speed : String) : Draft :=
  ((Draft.new "SubTree").setAttribute "ID" id).setAttribute "speed" speed

/-- Two trees, the first of which makes one reference twice. -/
def routeBefore : Document :=
  .ofList [("Main", (Draft.mk "Sequence" .empty
      [callOf "Dock" "1", callOf "Charge" "1", callOf "Dock" "3"]).build),
    ("Side", (callOf "Park" "1").build)]

/-- One tree with a new reference, another one dropped and a third at a new speed. -/
def routeAfter : Document :=
  .ofList [("Main", (Draft.mk "Sequence" .empty
    [callOf "Wash" "1", callOf "Dock" "2", callOf "Park" "1"]).build)]

theorem referenceChanges_follow_routes :
    (∃ kept, referenceChanges .all routeBefore routeAfter = kept ++ [.added "Wash"] ∧
      (kept.map ReferenceChange.id).Sublist ["Dock", "Charge", "Park"] ∧
        .removed "Charge" ∈ kept) ∧
    (callOf "Dock" "1").build ∈ (callOf "Dock" "1").build.preorder ∧
      (callOf "Dock" "1").build.RefersTo "Dock" := by
  obtain ⟨-, refers, ⟨kept, split, order, reported⟩, -⟩ :=
    referenceChanges_follow_references .all routeBefore routeAfter
  have before : routeBefore.referredIds = ["Dock", "Charge", "Park"] := by decide
  have after : routeAfter.referredIds = ["Wash", "Dock", "Park"] := by decide
  rw [before] at split order
  rw [after] at split
  have root : (callOf "Dock" "1").build ∈ (callOf "Dock" "1").build.preorder := List.mem_cons_self
  refine ⟨⟨kept, split, order, (reported _).2 (.removed ?_ ?_)⟩, root, ?_⟩
  · rw [before]
    decide
  · rw [after]
    decide
  · exact (refers _ _ root "Dock").2 (by decide)

end BehaviorDiff
