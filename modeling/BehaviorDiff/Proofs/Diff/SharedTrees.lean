import BehaviorDiff.Proofs.Diff.Reported
import BehaviorDiff.Report.Model

set_option autoImplicit false

/-!
What the comparison of two documents does with their names. A walk over the old definitions compares
each tree that the new document defines too and stops at the first one that cannot be compared; a
tree of one document alone is never looked at. If none fails, every name of the old document is
either compared or removed, and the results for a tree are those of comparing it by itself.
-/

namespace BehaviorDiff

theorem map_eq_error_iff {ε α β : Type} {f : α → β} {x : Except ε α} {error : ε} :
    x.map f = .error error ↔ x = .error error := by
  cases x <;> simp [Except.map]

/-- A list of steps fails at its first step that fails. -/
theorem mapM_eq_error_iff {α β ε : Type} {f : α → Except ε β} {items : List α} {error : ε} :
    items.mapM f = .error error ↔
      ∃ before item after, items = before ++ item :: after ∧ f item = .error error ∧
        ∀ other ∈ before, ∃ result, f other = .ok result := by
  induction items with
  | nil => simp [pure, Except.pure]
  | cons first rest ih =>
    rw [List.mapM_cons]
    cases here : f first with
    | error found =>
      constructor
      · intro h
        cases h
        exact ⟨[], first, rest, rfl, here, fun _ hm => absurd hm List.not_mem_nil⟩
      · rintro ⟨before, item, after, split, failed, passed⟩
        cases before with
        | nil =>
          obtain ⟨rfl, -⟩ := List.cons.inj split
          exact congrArg Except.error (Except.error.inj (here.symm.trans failed))
        | cons other before =>
          obtain ⟨rfl, -⟩ := List.cons.inj split
          obtain ⟨result, passed⟩ := passed first List.mem_cons_self
          cases here.symm.trans passed
    | ok result =>
      have step : (do let b ← Except.ok result; let bs ← rest.mapM f; pure (b :: bs)) =
          .error error ↔ rest.mapM f = .error error := by
        cases rest.mapM f <;> simp [bind, Except.bind, pure, Except.pure]
      rw [step, ih]
      constructor
      · rintro ⟨before, item, after, rfl, failed, passed⟩
        exact ⟨first :: before, item, after, rfl, failed,
          List.forall_mem_cons.2 ⟨⟨result, here⟩, passed⟩⟩
      · rintro ⟨before, item, after, split, failed, passed⟩
        cases before with
        | nil =>
          obtain ⟨rfl, -⟩ := List.cons.inj split
          cases here.symm.trans failed
        | cons other before =>
          obtain ⟨-, rfl⟩ := List.cons.inj split
          exact ⟨before, item, after, rfl, failed, (List.forall_mem_cons.1 passed).2⟩

theorem forall₂_of_mapM_eq_ok {α β ε : Type} {f : α → Except ε β} {items : List α}
    {results : List β} (h : items.mapM f = .ok results) :
    List.Forall₂ (fun item result => f item = .ok result) items results := by
  induction items generalizing results with
  | nil =>
    cases h
    exact .nil
  | cons first rest ih =>
    rw [List.mapM_cons] at h
    cases here : f first with
    | error e =>
      rw [here] at h
      cases h
    | ok result =>
      cases later : rest.mapM f with
      | error e =>
        rw [here, later] at h
        cases h
      | ok others =>
        rw [here, later] at h
        cases h
        exact .cons here (ih later)

theorem exists_partner_of_forall₂ {α β : Type} {R : α → β → Prop} {items : List α}
    {partners : List β} (h : List.Forall₂ R items partners) {item : α} (hm : item ∈ items) :
    ∃ partner ∈ partners, R item partner := by
  induction h with
  | nil => exact absurd hm List.not_mem_nil
  | @cons first partner _ _ here _ ih =>
    rcases List.mem_cons.1 hm with rfl | hm
    · exact ⟨partner, List.mem_cons_self, here⟩
    · obtain ⟨other, ho, related⟩ := ih hm
      exact ⟨other, List.mem_cons_of_mem partner ho, related⟩

section Names
variable {options : CompareOptions} {old new : Document}

/-- The comparison of one old definition with the new document, if that defines its name. -/
def sharedTree? (options : CompareOptions) (new : Document) (entry : String × Node) :
    Option SharedTree :=
  (new.get? entry.1).map fun root => ⟨entry.1, entry.2, root, compareTrees options entry.2 root⟩

theorem sharedTrees_eq : sharedTrees options old new =
    old.definitions.filterMap (sharedTree? options new) := rfl

theorem sharedTree?_of_get? {entry : String × Node} {root : Node}
    (found : new.get? entry.1 = some root) :
    sharedTree? options new entry =
      some ⟨entry.1, entry.2, root, compareTrees options entry.2 root⟩ := by
  rw [sharedTree?, found]
  rfl

theorem exists_of_sharedTree? {entry : String × Node} {tree : SharedTree}
    (h : sharedTree? options new entry = some tree) :
    ∃ root, new.get? entry.1 = some root ∧
      tree = ⟨entry.1, entry.2, root, compareTrees options entry.2 root⟩ := by
  obtain ⟨root, found, same⟩ := Option.map_eq_some_iff.1 h
  exact ⟨root, found, same.symm⟩

theorem exists_of_mem_sharedTrees {tree : SharedTree} (hm : tree ∈ sharedTrees options old new) :
    old.get? tree.name = some tree.old ∧ new.get? tree.name = some tree.new ∧
      tree.outcome = compareTrees options tree.old tree.new := by
  rw [sharedTrees_eq] at hm
  obtain ⟨entry, defined, h⟩ := List.mem_filterMap.1 hm
  obtain ⟨root, found, rfl⟩ := exists_of_sharedTree? h
  exact ⟨Document.mem_definitions_iff.1 defined, found, rfl⟩

theorem names_sharedTrees :
    (sharedTrees options old new).map SharedTree.name = old.names.filter new.contains := by
  rw [sharedTrees_eq]
  change _ = (old.definitions.map Prod.fst).filter new.contains
  induction old.definitions with
  | nil => rfl
  | cons entry rest ih =>
    rw [List.filterMap_cons, List.map_cons, List.filter_cons, ← ih]
    have known : new.contains entry.1 = (new.get? entry.1).isSome := rfl
    cases found : new.get? entry.1 with
    | none => simp [sharedTree?, known, found]
    | some root => simp [sharedTree?, known, found]

theorem treeDiffs_eq_error_iff {shared : List SharedTree} {error : DuplicatePath} :
    treeDiffs shared = .error error ↔
      ∃ before tree after, shared = before ++ tree :: after ∧ tree.outcome = .error error ∧
        ∀ other ∈ before, ∃ changes, other.outcome = .ok changes := by
  have passes (tree : SharedTree) :
      (∃ diff, (tree.outcome.map fun changes => TreeDiff.mk tree.name changes) = .ok diff) ↔
        ∃ changes, tree.outcome = .ok changes := by
    cases tree.outcome <;> simp [Except.map]
  rw [treeDiffs, mapM_eq_error_iff]
  simp only [map_eq_error_iff, passes]

/-- Whether a definition of the old document can be compared with the new document. -/
def Comparable (options : CompareOptions) (new : Document) (entry : String × Node) : Prop :=
  ∀ root, new.get? entry.1 = some root → ∃ changes, compareTrees options entry.2 root = .ok changes

/-- A comparison of documents fails with the first old definition that cannot be compared. -/
theorem compareDocuments_eq_error_iff {error : DuplicatePath} :
    compareDocuments options old new = .error error ↔
      ∃ before entry after root, old.definitions = before ++ entry :: after ∧
        new.get? entry.1 = some root ∧ compareTrees options entry.2 root = .error error ∧
          ∀ other ∈ before, Comparable options new other := by
  have fails : compareDocuments options old new = .error error ↔
      treeDiffs (sharedTrees options old new) = .error error := by
    rw [compareDocuments]
    cases treeDiffs (sharedTrees options old new) <;> simp [bind, Except.bind, pure, Except.pure]
  rw [fails, treeDiffs_eq_error_iff, sharedTrees_eq]
  constructor
  · rintro ⟨before, tree, after, split, failed, passed⟩
    -- Between the trees that passed and the one that fails, names of one document may stand.
    obtain ⟨front, back, inFront, rfl, inBack⟩ := List.filterMap_eq_append_iff.1 split
    obtain ⟨skipped, entry, rest, rfl, unshared, here, -⟩ := List.filterMap_eq_cons_iff.1 inBack
    obtain ⟨root, found, rfl⟩ := exists_of_sharedTree? here
    refine ⟨front ++ skipped, entry, rest, root, by simp [inFront], found, failed, ?_⟩
    intro other hm otherRoot shared
    rcases List.mem_append.1 hm with hm | hm
    · exact passed _ (List.mem_filterMap.2 ⟨other, hm, sharedTree?_of_get? shared⟩)
    · have absent := unshared other hm
      rw [sharedTree?_of_get? shared] at absent
      cases absent
  · rintro ⟨before, entry, after, root, split, found, failed, passed⟩
    refine ⟨before.filterMap (sharedTree? options new),
      ⟨entry.1, entry.2, root, compareTrees options entry.2 root⟩,
      after.filterMap (sharedTree? options new), ?_, failed, ?_⟩
    · rw [split, List.filterMap_append, List.filterMap_cons, sharedTree?_of_get? found]
    · intro tree hm
      obtain ⟨other, ho, h⟩ := List.mem_filterMap.1 hm
      obtain ⟨otherRoot, shared, rfl⟩ := exists_of_sharedTree? h
      exact passed other ho otherRoot shared

theorem forall₂_of_treeDiffs_eq_ok {shared : List SharedTree} {diffs : List TreeDiff}
    (h : treeDiffs shared = .ok diffs) :
    List.Forall₂ (fun tree diff => diff.name = tree.name ∧ tree.outcome = .ok diff.changes)
      shared diffs := by
  refine (forall₂_of_mapM_eq_ok h).imp fun tree diff passed => ?_
  cases outcome : tree.outcome with
  | error e =>
    rw [outcome] at passed
    cases passed
  | ok changes =>
    rw [outcome] at passed
    cases passed
    exact ⟨rfl, rfl⟩

theorem exists_treeDiffs_of_compareDocuments {diff : DocumentDiff}
    (h : compareDocuments options old new = .ok diff) :
    treeDiffs (sharedTrees options old new) = .ok diff.trees ∧
      diff.addedTrees = new.names.filter (fun name => !old.contains name) ∧
        diff.removedTrees = old.names.filter fun name => !new.contains name := by
  rw [compareDocuments] at h
  cases trees : treeDiffs (sharedTrees options old new) with
  | error e =>
    rw [trees] at h
    cases h
  | ok diffs =>
    rw [trees] at h
    cases h
    exact ⟨rfl, rfl, rfl⟩

theorem references_of_compareDocuments {diff : DocumentDiff}
    (h : compareDocuments options old new = .ok diff) :
    diff.references = referenceChanges options old new := by
  rw [compareDocuments] at h
  cases trees : treeDiffs (sharedTrees options old new) with
  | error e =>
    rw [trees] at h
    cases h
  | ok diffs =>
    rw [trees] at h
    cases h
    rfl

theorem exists_error_iff :
    (∃ error, compareDocuments options old new = .error error) ↔
      ∃ name oldRoot newRoot, old.get? name = some oldRoot ∧ new.get? name = some newRoot ∧
        ¬ ((oldRoot.preorder.map Node.path).Nodup ∧ (newRoot.preorder.map Node.path).Nodup) := by
  constructor
  · rintro ⟨error, h⟩
    obtain ⟨before, ⟨name, oldRoot⟩, after, newRoot, split, found, failed, -⟩ :=
      compareDocuments_eq_error_iff.1 h
    have defined : (name, oldRoot) ∈ old.definitions := by
      rw [split]
      exact List.mem_append_right _ List.mem_cons_self
    refine ⟨name, oldRoot, newRoot, Document.mem_definitions_iff.1 defined, found, ?_⟩
    rintro ⟨oldDistinct, newDistinct⟩
    obtain ⟨changes, compared⟩ := exists_changes_of_nodup options oldDistinct newDistinct
    cases compared.symm.trans failed
  · rintro ⟨name, oldRoot, newRoot, ho, hn, repeated⟩
    cases h : compareDocuments options old new with
    | error error => exact ⟨error, rfl⟩
    | ok diff =>
      have shared : SharedTree.mk name oldRoot newRoot (compareTrees options oldRoot newRoot) ∈
          sharedTrees options old new :=
        List.mem_filterMap.2
          ⟨(name, oldRoot), Document.mem_definitions_iff.2 ho, sharedTree?_of_get? hn⟩
      have walked := forall₂_of_treeDiffs_eq_ok (exists_treeDiffs_of_compareDocuments h).1
      obtain ⟨tree, -, -, compared⟩ := exists_partner_of_forall₂ walked shared
      exact absurd (exists_changes_iff.1 ⟨_, compared⟩) repeated

/-- The compared trees, by name and in the old document's order, are those of comparing the two
versions of each. -/
theorem trees_of_compareDocuments {diff : DocumentDiff}
    (h : compareDocuments options old new = .ok diff) :
    diff.trees.map TreeDiff.name = old.names.filter new.contains ∧
      ∀ tree ∈ diff.trees, ∃ oldRoot newRoot, old.get? tree.name = some oldRoot ∧
        new.get? tree.name = some newRoot ∧
          compareTrees options oldRoot newRoot = .ok tree.changes := by
  have walked := forall₂_of_treeDiffs_eq_ok (exists_treeDiffs_of_compareDocuments h).1
  constructor
  · rw [← @names_sharedTrees options, ← List.forall₂_eq_eq_eq, List.forall₂_map_left_iff,
      List.forall₂_map_right_iff]
    exact walked.flip.imp fun tree shared related => related.1
  · intro tree hm
    obtain ⟨shared, hs, name, outcome⟩ := exists_partner_of_forall₂ walked.flip hm
    obtain ⟨ho, hn, compared⟩ := exists_of_mem_sharedTrees hs
    rw [name]
    exact ⟨shared.old, shared.new, ho, hn, compared ▸ outcome⟩

/-- A tree that both documents define is among the compared ones. -/
theorem exists_mem_trees_of_get? {diff : DocumentDiff}
    (h : compareDocuments options old new = .ok diff) {name : String} {oldRoot newRoot : Node}
    (ho : old.get? name = some oldRoot) (hn : new.get? name = some newRoot) :
    ∃ changes, TreeDiff.mk name changes ∈ diff.trees ∧
      compareTrees options oldRoot newRoot = .ok changes := by
  obtain ⟨names, trees⟩ := trees_of_compareDocuments h
  have shared : name ∈ diff.trees.map TreeDiff.name := by
    rw [names, List.mem_filter]
    exact ⟨OrderedMap.contains_iff.1 (Option.isSome_iff_exists.2 ⟨oldRoot, ho⟩),
      Option.isSome_iff_exists.2 ⟨newRoot, hn⟩⟩
  obtain ⟨tree, hm, rfl⟩ := List.mem_map.1 shared
  obtain ⟨oldRoot', newRoot', ho', hn', compared⟩ := trees tree hm
  cases ho.symm.trans ho'
  cases hn.symm.trans hn'
  exact ⟨tree.changes, hm, compared⟩

end Names

/-- The report on two documents has one entry for every name that both define. -/
theorem names_trees_ofDocuments {options : CompareOptions} {old new : Document}
    {diff : DocumentDiff} (h : compareDocuments options old new = .ok diff) (sources : Sources)
    (now : Timestamp) (showUnchanged : Bool) :
    (Report.ofDocuments sources now diff showUnchanged).trees.map TreeReport.name =
      old.names.filter new.contains := by
  rw [← (trees_of_compareDocuments h).1, Report.ofDocuments, List.map_map]
  rfl

/-- In the report on two documents a shared tree has the entry that a report on it alone has. -/
theorem find?_trees_ofDocuments {options : CompareOptions} {old new : Document}
    {diff : DocumentDiff} (h : compareDocuments options old new = .ok diff) {tree : TreeDiff}
    (hm : tree ∈ diff.trees) (sources sources' : Sources) (now now' : Timestamp)
    (showUnchanged : Bool) :
    (Report.ofDocuments sources now diff showUnchanged).trees.find?
        (fun report => report.name == tree.name) =
      (Report.ofTree sources' now' tree showUnchanged).trees.head? := by
  -- No two entries have one name, so the first one found is that of the tree.
  refine (find?_eq_some_iff_of_nodup_key ?_).2 ⟨List.mem_map_of_mem hm, rfl⟩
  rw [names_trees_ofDocuments h]
  exact old.names_nodup.filter _

/-- A comparison of two documents fails exactly if a tree that both define has a path twice, with
the failure of the first one in the old document's order; trees of one document alone never make it
fail. Otherwise the names of the old document are split into compared and removed ones, those that
only the new document has are added, and what is found and reported for a tree is what comparing its
two versions by themselves finds. -/
theorem compareDocuments_partitions_names (options : CompareOptions) (old new : Document) :
    (∀ error, compareDocuments options old new = .error error ↔
      ∃ before entry after root, old.definitions = before ++ entry :: after ∧
        new.get? entry.1 = some root ∧ compareTrees options entry.2 root = .error error ∧
          ∀ other ∈ before, Comparable options new other) ∧
    ((∃ error, compareDocuments options old new = .error error) ↔
      ∃ name oldRoot newRoot, old.get? name = some oldRoot ∧ new.get? name = some newRoot ∧
        ¬ ((oldRoot.preorder.map Node.path).Nodup ∧ (newRoot.preorder.map Node.path).Nodup)) ∧
    ∀ diff, compareDocuments options old new = .ok diff →
      diff.trees.map TreeDiff.name = old.names.filter new.contains ∧
      diff.removedTrees = (old.names.filter fun name => !new.contains name) ∧
      (diff.trees.map TreeDiff.name ++ diff.removedTrees).Perm old.names ∧
      diff.addedTrees = (new.names.filter fun name => !old.contains name) ∧
      (∀ tree ∈ diff.trees, ∃ oldRoot newRoot, old.get? tree.name = some oldRoot ∧
        new.get? tree.name = some newRoot ∧
          compareTrees options oldRoot newRoot = .ok tree.changes) ∧
      ∀ name oldRoot newRoot, old.get? name = some oldRoot → new.get? name = some newRoot →
        ∃ changes, compareTrees options oldRoot newRoot = .ok changes ∧
          ∀ sources sources' now now' showUnchanged,
            (Report.ofDocuments sources now diff showUnchanged).trees.find?
                (fun report => report.name == name) =
              (Report.ofTree sources' now' ⟨name, changes⟩ showUnchanged).trees.head? := by
  refine ⟨fun error => compareDocuments_eq_error_iff, exists_error_iff, fun diff h => ?_⟩
  obtain ⟨names, compared⟩ := trees_of_compareDocuments h
  obtain ⟨-, added, removed⟩ := exists_treeDiffs_of_compareDocuments h
  refine ⟨names, removed, ?_, added, compared, ?_⟩
  · rw [names, removed]
    simpa using List.filter_append_perm new.contains old.names
  · intro name oldRoot newRoot ho hn
    obtain ⟨changes, hm, found⟩ := exists_mem_trees_of_get? h ho hn
    exact ⟨changes, found, find?_trees_ofDocuments h hm⟩

/-- A sequence of two actions with given identities. -/
def actionPair (first second : String) : Draft :=
  ((Draft.new "Sequence").pushChild ((Draft.new "Action").setAttribute "ID" first)).pushChild
    ((Draft.new "Action").setAttribute "ID" second)

/-- Two trees and, between them, one in which a path occurs twice. -/
def depotBefore : Document :=
  .ofList [("Main", (actionPair "a" "b").build), ("Broken", (actionPair "a" "a").build),
    ("Dock", (Draft.new "Fallback").build)]

/-- The two trees in the other order, one of them changed, and a new tree. -/
def depotAfter : Document :=
  .ofList [("Dock", (Draft.new "Fallback").build), ("Extra", (actionPair "c" "c").build),
    ("Main", (actionPair "a" "c").build)]

theorem compareDocuments_partitions_depot :
    (∀ root ∈ depotBefore.get? "Broken", ¬ (root.preorder.map Node.path).Nodup) ∧
      ∃ diff, compareDocuments .all depotBefore depotAfter = .ok diff ∧
        diff.trees.map TreeDiff.name = ["Main", "Dock"] ∧ diff.removedTrees = ["Broken"] ∧
          diff.addedTrees = ["Extra"] ∧
            ∃ changes, compareTrees .all (actionPair "a" "b").build (actionPair "a" "c").build =
                .ok changes ∧
              ∀ sources now, (Report.ofDocuments sources now diff false).trees.find?
                  (fun report => report.name == "Main") =
                some (.ofDiff ⟨"Main", changes⟩ false) := by
  obtain ⟨-, fails, partitions⟩ := compareDocuments_partitions_names .all depotBefore depotAfter
  refine ⟨by decide, ?_⟩
  cases h : compareDocuments .all depotBefore depotAfter with
  | error e =>
    obtain ⟨name, oldRoot, newRoot, ho, hn, repeated⟩ := fails.1 ⟨e, h⟩
    have defined := Document.mem_definitions_iff.2 ho
    have entries : depotBefore.definitions = [("Main", (actionPair "a" "b").build),
      ("Broken", (actionPair "a" "a").build), ("Dock", (Draft.new "Fallback").build)] := rfl
    simp only [entries, List.mem_cons, Prod.mk.injEq, List.not_mem_nil, or_false] at defined
    rcases defined with ⟨rfl, rfl⟩ | ⟨rfl, rfl⟩ | ⟨rfl, rfl⟩
    · cases hn
      exact absurd (by decide) repeated
    · cases hn
    · cases hn
      exact absurd (by decide) repeated
  | ok diff =>
    obtain ⟨names, removed, -, added, -, reports⟩ := partitions diff h
    obtain ⟨changes, compared, report⟩ := reports "Main" _ _ rfl rfl
    exact ⟨diff, rfl, names, removed, added, changes, compared,
      fun sources now => report sources sources now now false⟩

end BehaviorDiff
