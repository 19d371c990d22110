import BehaviorDiff.Proofs.Diff.Agreement
import BehaviorDiff.Proofs.Diff.SharedTrees

set_option autoImplicit false

/-!
References between trees, and what they have to do with the trees. A reference is known by the first
subtree node that makes it, in the order of the whole document, whereas the nodes of a tree are
known by their paths. So if no tree differs, both documents make the same references, and a reference can
only be reported as modified if the old document makes it twice, in different ways, and another one
of the two comes first in the new document.
-/

namespace BehaviorDiff

section FirstEntries
variable {κ ν : Type} [DecidableEq κ]

/-- Writes an entry unless its key has one. -/
def OrderedMap.keep (found : OrderedMap κ ν) (entry : κ × ν) : OrderedMap κ ν :=
  if found.contains entry.1 then found else found.insert entry.1 entry.2

/-- Of the entries of one key the first is kept. -/
theorem OrderedMap.get?_foldl_keep (entries : List (κ × ν)) (found : OrderedMap κ ν) (key : κ) :
    (entries.foldl keep found).get? key = (found.get? key).or (entries.lookup key) := by
  induction entries generalizing found with
  | nil => simp
  | cons entry rest ih =>
    obtain ⟨k, v⟩ := entry
    have kept : (found.keep (k, v)).get? key =
        (found.get? key).or (if key = k then some v else none) := by
      rw [keep]
      by_cases known : found.contains k = true
      · rw [if_pos known]
        by_cases here : key = k
        · obtain ⟨value, there⟩ := Option.isSome_iff_exists.1 known
          simp [here, there]
        · simp [here]
      · have absent : found.get? k = none := by simpa [contains] using known
        rw [if_neg known, get?_insert]
        by_cases here : key = k
        · simp [here, absent]
        · simp [here]
    rw [List.foldl_cons, ih, kept, Option.or_assoc]
    congr 1
    by_cases here : key = k
    · simp [here]
    · simp [here, List.lookup_cons, beq_eq_false_iff_ne.2 here]

end FirstEntries

/-- The node refers to the tree of the given identity. -/
structure Node.RefersTo (node : Node) (id : String) : Prop where
  kind : node.kind = .subtree
  identity : node.attributes.id? = some id

namespace Document

/-- A reference is known by the first node that makes it. -/
theorem get?_references (document : Document) (id : String) :
    document.references.get? id = document.subtreeNodes.lookup id := by
  have empty : (OrderedMap.empty : OrderedMap String Node).get? id = none := rfl
  have folded := OrderedMap.get?_foldl_keep document.subtreeNodes .empty id
  rw [empty, Option.none_or] at folded
  exact folded

theorem mem_subtreeNodes_iff {document : Document} {id : String} {node : Node} :
    (id, node) ∈ document.subtreeNodes ↔
      ∃ name root, document.get? name = some root ∧ node ∈ root.preorder ∧ node.RefersTo id := by
  simp only [subtreeNodes, Node.nodes_eq_preorder, List.mem_flatMap, List.mem_filterMap,
    List.mem_filter, decide_eq_true_eq, Option.map_eq_some_iff, Prod.mk.injEq]
  constructor
  · rintro ⟨⟨name, root⟩, defined, other, ⟨hm, kind⟩, _, identity, rfl, rfl⟩
    exact ⟨name, root, mem_definitions_iff.1 defined, hm, kind, identity⟩
  · rintro ⟨name, root, defined, hm, kind, identity⟩
    exact ⟨(name, root), mem_definitions_iff.2 defined, node, ⟨hm, kind⟩, id, identity, rfl, rfl⟩

theorem mem_subtreeNodes_of_references {document : Document} {id : String} {node : Node}
    (first : document.references.get? id = some node) : (id, node) ∈ document.subtreeNodes := by
  rw [get?_references] at first
  obtain ⟨before, after, split, -⟩ := List.lookup_eq_some_iff.1 first
  rw [split]
  exact List.mem_append_right _ List.mem_cons_self

theorem exists_references_of_mem {document : Document} {id : String} {node : Node}
    (hm : (id, node) ∈ document.subtreeNodes) :
    ∃ first, document.references.get? id = some first := by
  rw [get?_references]
  cases found : document.subtreeNodes.lookup id with
  | some first => exact ⟨first, rfl⟩
  | none =>
    have absent := List.lookup_eq_none_iff.1 found (id, node) hm
    simp at absent

end Document

section Changes
variable {options : CompareOptions} {old new : Document}

theorem mem_referenceChanges_iff {change : ReferenceChange} :
    change ∈ referenceChanges options old new ↔
      (∃ id node, old.references.get? id = some node ∧
        referenceChange? options new.references id node = some change) ∨
      ∃ id node, new.references.get? id = some node ∧ old.references.get? id = none ∧
        change = .added id := by
  rw [referenceChanges, List.mem_append, List.mem_filterMap, List.mem_map]
  refine or_congr ⟨?_, ?_⟩ ⟨?_, ?_⟩
  · rintro ⟨⟨id, node⟩, hm, found⟩
    exact ⟨id, node, OrderedMap.mem_entries_iff.1 hm, found⟩
  · rintro ⟨id, node, here, found⟩
    exact ⟨(id, node), OrderedMap.mem_entries_iff.2 here, found⟩
  · rintro ⟨id, hm, rfl⟩
    obtain ⟨known, fresh⟩ := List.mem_filter.1 hm
    obtain ⟨node, here⟩ := Option.isSome_iff_exists.1 (OrderedMap.contains_iff.2 known)
    exact ⟨id, node, here, by simpa [OrderedMap.contains] using fresh, rfl⟩
  · rintro ⟨id, node, here, absent, rfl⟩
    have known := OrderedMap.contains_iff.1 (Option.isSome_iff_exists.2 ⟨node, here⟩)
    exact ⟨id, List.mem_filter.2 ⟨known, by simp [OrderedMap.contains, absent]⟩, rfl⟩

end Changes

/-- Every tree is defined in both documents, and none differs. -/
structure DocumentDiff.TreesAgree (diff : DocumentDiff) : Prop where
  added : diff.addedTrees = []
  removed : diff.removedTrees = []
  unchanged : ∀ tree ∈ diff.trees, ∀ change ∈ tree.changes, change.kind = .unchanged

theorem DocumentDiff.TreesAgree.hasChanges_eq {diff : DocumentDiff} (agree : diff.TreesAgree) :
    diff.hasChanges = !diff.references.isEmpty := by
  have trees : diff.trees.any TreeDiff.hasChanges = false := by
    rw [List.any_eq_false]
    intro tree hm
    simpa [TreeDiff.hasChanges, Change.isChange] using agree.unchanged tree hm
  rw [DocumentDiff.hasChanges, agree.added, agree.removed, trees]
  simp

namespace Document

/-- Documents that define the same names, with no difference between the versions of a tree. -/
structure SameTrees (options : CompareOptions) (old new : Document) : Prop where
  names : ∀ name, name ∈ old.names ↔ name ∈ new.names
  trees : ∀ name oldRoot newRoot, old.get? name = some oldRoot → new.get? name = some newRoot →
    NoDifference options oldRoot newRoot

/-- Subtree nodes at one path of the two versions of a tree have one identity. -/
def SameIdentities (old new : Document) : Prop :=
  ∀ name oldRoot newRoot, old.get? name = some oldRoot → new.get? name = some newRoot →
    ∀ a ∈ oldRoot.preorder, ∀ b ∈ newRoot.preorder, a.path = b.path →
      a.kind = .subtree → b.kind = .subtree → a.attributes.id? = b.attributes.id?

/-- The trees come in the same order, and so do the paths of each tree. -/
def SameOrder (old new : Document) : Prop :=
  List.Forall₂ (fun entry entry' => entry.1 = entry'.1 ∧
    entry.2.preorder.map Node.path = entry'.2.preorder.map Node.path)
    old.definitions new.definitions

/-- References of one identity agree in every attribute that counts. -/
def Uniform (options : CompareOptions) (document : Document) : Prop :=
  ∀ id a b, (id, a) ∈ document.subtreeNodes → (id, b) ∈ document.subtreeNodes →
    (attributeDeltas options a b).isEmpty = true

theorem mem_names_iff {document : Document} {name : String} :
    name ∈ document.names ↔ ∃ root, document.get? name = some root :=
  OrderedMap.contains_iff.symm.trans Option.isSome_iff_exists

theorem contains_iff {document : Document} {name : String} :
    document.contains name = true ↔ name ∈ document.names :=
  OrderedMap.contains_iff

section SameTrees
variable {options : CompareOptions} {old new : Document}

theorem SameTrees.symm (same : SameTrees options old new) : SameTrees options new old where
  names name := (same.names name).symm
  trees name oldRoot newRoot ho hn := (same.trees name newRoot oldRoot hn ho).symm

theorem SameIdentities.symm (same : SameIdentities old new) : SameIdentities new old :=
  fun name oldRoot newRoot ho hn a ha b hb path kind kind' =>
    (same name newRoot oldRoot hn ho b hb a ha path.symm kind' kind).symm

theorem sameTrees_iff :
    SameTrees options old new ↔
      ((∀ name ∈ old.names, name ∈ new.names) ∧ ∀ name ∈ new.names, name ∈ old.names) ∧
        ∀ entry ∈ old.definitions, ∀ entry' ∈ new.definitions, entry.1 = entry'.1 →
          NoDifference options entry.2 entry'.2 := by
  constructor
  · intro same
    refine ⟨⟨fun name => (same.names name).1, fun name => (same.names name).2⟩, ?_⟩
    rintro ⟨name, oldRoot⟩ ho ⟨name', newRoot⟩ hn rfl
    exact same.trees name oldRoot newRoot (mem_definitions_iff.1 ho) (mem_definitions_iff.1 hn)
  · rintro ⟨names, trees⟩
    refine ⟨fun name => ⟨names.1 name, names.2 name⟩, fun name oldRoot newRoot ho hn => ?_⟩
    exact trees _ (mem_definitions_iff.2 ho) _ (mem_definitions_iff.2 hn) rfl

instance : Decidable (SameTrees options old new) := decidable_of_iff _ sameTrees_iff.symm

/-- The trees of two documents agree exactly if the comparison of the documents says so. -/
theorem exists_treesAgree_iff :
    (∃ diff, compareDocuments options old new = .ok diff ∧ diff.TreesAgree) ↔
      SameTrees options old new := by
  constructor
  · rintro ⟨diff, compared, agree⟩
    obtain ⟨-, added, removed⟩ := exists_treeDiffs_of_compareDocuments compared
    rw [agree.added, eq_comm, List.filter_eq_nil_iff] at added
    rw [agree.removed, eq_comm, List.filter_eq_nil_iff] at removed
    refine ⟨fun name => ⟨fun hm => ?_, fun hm => ?_⟩, fun name oldRoot newRoot ho hn => ?_⟩
    · have known : new.contains name = true := by simpa using removed name hm
      exact contains_iff.1 known
    · have known : old.contains name = true := by simpa using added name hm
      exact contains_iff.1 known
    · obtain ⟨changes, hm, found⟩ := exists_mem_trees_of_get? compared ho hn
      exact ⟨changes, found, agree.unchanged _ hm⟩
  · intro same
    cases compared : compareDocuments options old new with
    | error error =>
      obtain ⟨name, oldRoot, newRoot, ho, hn, repeated⟩ := exists_error_iff.1 ⟨error, compared⟩
      exact absurd (noDifference_iff.1 (same.trees name oldRoot newRoot ho hn)).1 repeated
    | ok diff =>
      obtain ⟨-, added, removed⟩ := exists_treeDiffs_of_compareDocuments compared
      refine ⟨diff, rfl, ⟨?_, ?_, fun tree hm => ?_⟩⟩
      · rw [added, List.filter_eq_nil_iff]
        intro name hm
        simpa using contains_iff.2 ((same.names name).2 hm)
      · rw [removed, List.filter_eq_nil_iff]
        intro name hm
        simpa using contains_iff.2 ((same.names name).1 hm)
      · obtain ⟨-, trees⟩ := trees_of_compareDocuments compared
        obtain ⟨oldRoot, newRoot, ho, hn, found⟩ := trees tree hm
        obtain ⟨changes, found', unchanged⟩ := same.trees tree.name oldRoot newRoot ho hn
        cases found.symm.trans found'
        exact unchanged

/-- Subtree nodes at one path without a difference have one identity. -/
theorem id?_eq_of_matched
    (identified : options.isIgnored idAttribute = false ∨ SameIdentities old new) {name : String}
    {oldRoot newRoot a b : Node} (ho : old.get? name = some oldRoot)
    (hn : new.get? name = some newRoot) (ha : a ∈ oldRoot.preorder) (hb : b ∈ newRoot.preorder)
    (matched : Matched options a b) (subtree : a.kind = .subtree) :
    a.attributes.id? = b.attributes.id? := by
  obtain ⟨-, kind, values⟩ := isEmpty_contentDelta_iff.1 matched.same
  rcases identified with counts | identities
  · have value := (values idAttribute).resolve_left (by simp [counts])
    rw [a.attributes.id?_eq, b.attributes.id?_eq]
    exact congrArg (fun value => (some value).filter (· ≠ "")) value
  · exact identities name oldRoot newRoot ho hn a ha b hb matched.path subtree (kind ▸ subtree)

/-- A reference of one document is made in the other at the same place, without a difference. -/
theorem SameTrees.exists_partner (same : SameTrees options old new)
    (identified : options.isIgnored idAttribute = false ∨ SameIdentities old new) {id : String}
    {a : Node} (hm : (id, a) ∈ old.subtreeNodes) :
    ∃ b, (id, b) ∈ new.subtreeNodes ∧ (contentDelta options a b).isEmpty = true := by
  obtain ⟨name, oldRoot, ho, ha, refers⟩ := mem_subtreeNodes_iff.1 hm
  obtain ⟨newRoot, hn⟩ := mem_names_iff.1 ((same.names name).1 (mem_names_iff.2 ⟨oldRoot, ho⟩))
  obtain ⟨-, covers, -⟩ := noDifference_iff.1 (same.trees name oldRoot newRoot ho hn)
  obtain ⟨b, hb, path, empty⟩ := covers a ha
  have kind : a.kind = b.kind := (isEmpty_contentDelta_iff.1 empty).2.1
  have identity := id?_eq_of_matched identified ho hn ha hb ⟨path, empty⟩ refers.kind
  exact ⟨b, mem_subtreeNodes_iff.2
    ⟨name, newRoot, hn, hb, kind ▸ refers.kind, identity ▸ refers.identity⟩, empty⟩

/-- If no tree differs, a changed reference is a modified one, and its deltas are those between the
first node that makes it and another one of the same document. -/
theorem SameTrees.exists_two_of_mem (same : SameTrees options old new)
    (identified : options.isIgnored idAttribute = false ∨ SameIdentities old new)
    {change : ReferenceChange} (hm : change ∈ referenceChanges options old new) :
    ∃ id deltas a b, change = .modified id deltas ∧ old.references.get? id = some a ∧
      (id, b) ∈ old.subtreeNodes ∧ deltas.isEmpty = false ∧
        ∀ name, deltas.get? name = (attributeDeltas options a b).get? name := by
  rcases mem_referenceChanges_iff.1 hm with ⟨id, a, first, found⟩ | ⟨id, b, first, absent, -⟩
  · obtain ⟨partner, hp, -⟩ := same.exists_partner identified (mem_subtreeNodes_of_references first)
    obtain ⟨b, first'⟩ := exists_references_of_mem hp
    -- What the new document puts first stands somewhere in the old one, too.
    obtain ⟨b', hb', empty⟩ := same.symm.exists_partner (identified.imp_right SameIdentities.symm)
      (mem_subtreeNodes_of_references first')
    rw [referenceChange?, first'] at found
    cases differ : (attributeDeltas options a b).isEmpty with
    | true =>
      simp only [differ, if_true] at found
      cases found
    | false =>
      simp only [differ, Bool.false_eq_true, if_false, Option.some.injEq] at found
      refine ⟨id, _, a, b', found.symm, first, hb', differ, fun name => ?_⟩
      rw [get?_attributeDeltas, get?_attributeDeltas]
      rcases (isEmpty_contentDelta_iff.1 empty).2.2 name with ignored | value
      · rw [attributeDelta?_eq_none_iff.2 (.inl ignored),
          attributeDelta?_eq_none_iff.2 (.inl ignored)]
      · rw [attributeDelta?, attributeDelta?, value]
  · obtain ⟨partner, hp, -⟩ := same.symm.exists_partner (identified.imp_right SameIdentities.symm)
      (mem_subtreeNodes_of_references first)
    obtain ⟨a, first'⟩ := exists_references_of_mem hp
    rw [absent] at first'
    cases first'

/-- If no tree differs and references of one identity agree, no reference is changed. -/
theorem SameTrees.referenceChanges_of_uniform (same : SameTrees options old new)
    (identified : options.isIgnored idAttribute = false ∨ SameIdentities old new)
    (uniform : Uniform options old) : referenceChanges options old new = [] := by
  refine List.eq_nil_iff_forall_not_mem.2 fun change hm => ?_
  obtain ⟨id, deltas, a, b, -, first, hb, differ, values⟩ := same.exists_two_of_mem identified hm
  have empty := uniform id a b (mem_subtreeNodes_of_references first) hb
  have none_left : deltas.isEmpty = true := by
    rw [OrderedMap.isEmpty, List.isEmpty_iff] at empty ⊢
    refine List.eq_nil_iff_forall_not_mem.2 fun entry he => ?_
    have value := OrderedMap.mem_entries_iff.1 he
    rw [values, ← OrderedMap.mem_entries_iff, empty] at value
    exact List.not_mem_nil value
  rw [none_left] at differ
  cases differ

private theorem rel_lookup {entries entries' : List (String × Node)}
    (related : List.Forall₂ (fun entry entry' =>
      entry.1 = entry'.1 ∧ (contentDelta options entry.2 entry'.2).isEmpty = true) entries entries')
    (id : String) :
    Option.Rel (fun a b => (contentDelta options a b).isEmpty = true) (entries.lookup id)
      (entries'.lookup id) := by
  induction related with
  | nil => exact .none
  | @cons entry entry' _ _ here _ ih =>
    obtain ⟨key, node⟩ := entry
    obtain ⟨key', node'⟩ := entry'
    obtain ⟨rfl, same⟩ := here
    rw [List.lookup_cons, List.lookup_cons]
    by_cases found : id = key
    · simpa [found] using Option.Rel.some same
    · simpa [beq_eq_false_iff_ne.2 found] using ih

/-- If no tree differs and everything comes in one order, both documents make the same references,
one after another. -/
theorem SameTrees.forall₂_subtreeNodes (same : SameTrees options old new)
    (identified : options.isIgnored idAttribute = false ∨ SameIdentities old new)
    (order : SameOrder old new) :
    List.Forall₂ (fun entry entry' =>
        entry.1 = entry'.1 ∧ (contentDelta options entry.2 entry'.2).isEmpty = true)
      old.subtreeNodes new.subtreeNodes := by
  refine List.rel_flatMap (List.forall₂_iff_zip.2 ⟨order.length_eq, fun {entry entry'} pair => ?_⟩)
    fun _ _ related => related
  obtain ⟨name, paths⟩ := (List.forall₂_iff_zip.1 order).2 pair
  have ho := mem_definitions_iff.1 (List.of_mem_zip pair).1
  have hn := mem_definitions_iff.1 (List.of_mem_zip pair).2
  rw [← name] at hn
  have matched := forall₂_matched_of_paths_eq (same.trees _ _ _ ho hn) paths
  rw [List.filterMap_filter, List.filterMap_filter, Node.nodes_eq_preorder, Node.nodes_eq_preorder]
  refine List.rel_filterMap (fun a b related => related) (List.forall₂_iff_zip.2
    ⟨matched.length_eq, fun {a b} pair => ?_⟩)
  have here := (List.forall₂_iff_zip.1 matched).2 pair
  have kind : a.kind = b.kind := (isEmpty_contentDelta_iff.1 here.same).2.1
  by_cases subtree : a.kind = .subtree
  · have identity := id?_eq_of_matched identified ho hn (List.of_mem_zip pair).1
      (List.of_mem_zip pair).2 here subtree
    simp only [subtree, ← kind, ← identity, decide_true, if_true]
    cases a.attributes.id? with
    | none => exact .none
    | some id => exact .some ⟨rfl, here.same⟩
  · simp only [subtree, ← kind, decide_false, Bool.false_eq_true, if_false]
    exact .none

/-- If no tree differs and everything comes in one order, no reference is changed. -/
theorem SameTrees.referenceChanges_of_sameOrder (same : SameTrees options old new)
    (identified : options.isIgnored idAttribute = false ∨ SameIdentities old new)
    (order : SameOrder old new) : referenceChanges options old new = [] := by
  have partners := same.forall₂_subtreeNodes identified order
  refine List.eq_nil_iff_forall_not_mem.2 fun change hm => ?_
  rcases mem_referenceChanges_iff.1 hm with ⟨id, a, first, found⟩ | ⟨id, b, first, absent, -⟩
  · have firsts := rel_lookup partners id
    rw [← get?_references, ← get?_references, first] at firsts
    cases first' : new.references.get? id with
    | none =>
      rw [first'] at firsts
      cases firsts
    | some b =>
      rw [first'] at firsts
      cases firsts with
      | some empty =>
        have none_left := isEmpty_attributeDeltas_iff.2 (isEmpty_contentDelta_iff.1 empty).2.2
        rw [referenceChange?, first'] at found
        simp [none_left] at found
  · have firsts := rel_lookup partners id
    rw [← get?_references, ← get?_references, first, absent] at firsts
    cases firsts

end SameTrees

end Document

/-- If every tree is defined in both documents and none differs, a changed reference is a modified
one, and it is explained by the old document alone: its deltas are those between the first node that
makes the reference and another one that makes it. So no reference is changed if those of one
identity agree, or if trees and nodes come in one order; and documents differ only if a tree does or
if two nodes of the old document make one reference in different ways. All this is said of options
that do not ignore identities, or of documents in which a path has one identity. -/
theorem references_explained_by_trees (options : CompareOptions) (old new : Document)
    (identified : options.isIgnored idAttribute = false ∨ Document.SameIdentities old new)
    (diff : DocumentDiff) (compared : compareDocuments options old new = .ok diff) :
    (diff.TreesAgree →
      (∀ change ∈ diff.references, ∃ id deltas a b, change = .modified id deltas ∧
        old.references.get? id = some a ∧ (id, b) ∈ old.subtreeNodes ∧ deltas.isEmpty = false ∧
          ∀ name, deltas.get? name = (attributeDeltas options a b).get? name) ∧
      (old.Uniform options → diff.references = []) ∧
      (old.SameOrder new → diff.references = [])) ∧
    (diff.hasChanges = true → diff.addedTrees ≠ [] ∨ diff.removedTrees ≠ [] ∨
      (∃ tree ∈ diff.trees, tree.hasChanges = true) ∨
        ¬ old.Uniform options ∧ ¬ old.SameOrder new) := by
  have references : diff.references = referenceChanges options old new :=
    references_of_compareDocuments compared
  rw [references]
  have same (agree : diff.TreesAgree) : Document.SameTrees options old new :=
    Document.exists_treesAgree_iff.1 ⟨diff, compared, agree⟩
  refine ⟨fun agree => ⟨fun change hm => (same agree).exists_two_of_mem identified hm,
    (same agree).referenceChanges_of_uniform identified,
    (same agree).referenceChanges_of_sameOrder identified⟩, fun changed => ?_⟩
  by_cases agree : diff.TreesAgree
  · rw [agree.hasChanges_eq, references] at changed
    refine .inr (.inr (.inr ⟨fun uniform => ?_, fun order => ?_⟩))
    · rw [(same agree).referenceChanges_of_uniform identified uniform] at changed
      cases changed
    · rw [(same agree).referenceChanges_of_sameOrder identified order] at changed
      cases changed
  · by_contra none_differs
    simp only [not_or, not_exists, not_and, ne_eq, Classical.not_not] at none_differs
    obtain ⟨added, removed, unchanged, -⟩ := none_differs
    refine agree ⟨added, removed, fun tree hm change hc => ?_⟩
    have quiet := unchanged tree hm
    rw [Bool.not_eq_true, TreeDiff.hasChanges, List.any_eq_false] at quiet
    simpa [Change.isChange] using quiet change hc

/-- A node with a reference to the docking tree, at a speed. -/
def dockingAt (tag speed : String) : Draft :=
  (Draft.new tag).pushChild
    (((Draft.new "SubTree").setAttribute "ID" "Dock").setAttribute "speed" speed)

/-- A tree with a slow reference before a fast one. -/
def slowNodeFirst : Document :=
  .ofList [("Main", (((Draft.new "BehaviorTree").pushChild (dockingAt "Sequence" "1")).pushChild
    (dockingAt "Fallback" "2")).build)]

/-- The same two nodes in the other order. -/
def fastNodeFirst : Document :=
  .ofList [("Main", (((Draft.new "BehaviorTree").pushChild (dockingAt "Fallback" "2")).pushChild
    (dockingAt "Sequence" "1")).build)]

/-- A tree with a slow reference before one with a fast reference. -/
def slowTreeFirst : Document :=
  .ofList [("Slow", (dockingAt "BehaviorTree" "1").build),
    ("Fast", (dockingAt "BehaviorTree" "2").build)]

/-- The same two trees in the other order. -/
def fastTreeFirst : Document :=
  .ofList [("Fast", (dockingAt "BehaviorTree" "2").build),
    ("Slow", (dockingAt "BehaviorTree" "1").build)]

/-- A tree that is nothing but a reference. -/
def loneReference (id : String) : Document :=
  .ofList [("Main", ((Draft.new "SubTree").setAttribute "ID" id).build)]

/-- Options that leave identities out. -/
def ignoringIdentity : CompareOptions := ⟨fun name => name == idAttribute⟩

theorem references_explained_docking :
    CompareOptions.all.isIgnored idAttribute = false ∧
      ∃ diff, compareDocuments .all slowNodeFirst fastNodeFirst = .ok diff ∧ diff.TreesAgree ∧
        diff.references.map ReferenceChange.kind = [.modified] ∧
          (∀ change ∈ diff.references, ∃ id deltas a b, change = .modified id deltas ∧
            slowNodeFirst.references.get? id = some a ∧ (id, b) ∈ slowNodeFirst.subtreeNodes ∧
              deltas.isEmpty = false ∧
                ∀ name, deltas.get? name = (attributeDeltas .all a b).get? name) ∧
          ¬ slowNodeFirst.Uniform .all ∧ ¬ slowNodeFirst.SameOrder fastNodeFirst := by
  have same : Document.SameTrees .all slowNodeFirst fastNodeFirst := by decide
  obtain ⟨diff, compared, agree⟩ := Document.exists_treesAgree_iff.2 same
  have kinds : diff.references.map ReferenceChange.kind = [.modified] := by
    rw [references_of_compareDocuments compared]
    simp only [referenceChanges, Document.references, Document.subtreeNodes, Node.nodes_eq_preorder]
    decide
  obtain ⟨explained, -⟩ :=
    references_explained_by_trees .all slowNodeFirst fastNodeFirst (.inl rfl) diff compared
  obtain ⟨two, uniform, order⟩ := explained agree
  refine ⟨rfl, diff, compared, agree, kinds, two, fun h => ?_, fun h => ?_⟩
  · rw [uniform h] at kinds
    cases kinds
  · rw [order h] at kinds
    cases kinds

/-- References can be reported as changed although no tree differs: if nodes or trees come in
another order, or if identities are ignored. -/
theorem references_changed_by_order_or_identity :
    (∃ diff, compareDocuments .all slowNodeFirst fastNodeFirst = .ok diff ∧ diff.TreesAgree ∧
      diff.references.map ReferenceChange.kind = [.modified] ∧ diff.hasChanges = true) ∧
    (∃ diff, compareDocuments .all slowTreeFirst fastTreeFirst = .ok diff ∧ diff.TreesAgree ∧
      diff.references.map ReferenceChange.kind = [.modified] ∧ diff.hasChanges = true) ∧
    ∃ diff, compareDocuments ignoringIdentity (loneReference "Dock") (loneReference "Undock") =
        .ok diff ∧ diff.TreesAgree ∧
      diff.references.map ReferenceChange.kind = [.removed, .added] ∧ diff.hasChanges = true := by
  have changed {options : CompareOptions} {old new : Document} {kinds : List ChangeKind}
      (same : Document.SameTrees options old new)
      (found : (referenceChanges options old new).map ReferenceChange.kind = kinds)
      (some_kind : kinds ≠ []) :
      ∃ diff, compareDocuments options old new = .ok diff ∧ diff.TreesAgree ∧
        diff.references.map ReferenceChange.kind = kinds ∧ diff.hasChanges = true := by
    obtain ⟨diff, compared, agree⟩ := Document.exists_treesAgree_iff.2 same
    rw [← references_of_compareDocuments compared] at found
    refine ⟨diff, compared, agree, found, ?_⟩
    rw [agree.hasChanges_eq]
    cases references : diff.references with
    | nil => exact absurd (by rw [← found, references]; rfl) some_kind
    | cons change rest => rfl
  refine ⟨changed (by decide) ?_ (by decide), changed (by decide) ?_ (by decide),
    changed (by decide) ?_ (by decide)⟩
  all_goals
    simp only [referenceChanges, Document.references, Document.subtreeNodes, Node.nodes_eq_preorder]
    decide

end BehaviorDiff
