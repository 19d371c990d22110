import BehaviorDiff.Proofs.Diff.Reported
import BehaviorDiff.Proofs.Tree.Repetition

set_option autoImplicit false

/-!
Which trees cannot be compared. A comparison fails exactly if one of the trees has a path twice; it
blames the old tree first, and of a tree the first path, in pre-order, that repeats an earlier one.
In built trees whose tags and identities can be told apart in a path this is the path of the first
node that has an earlier sibling of its tag and its identity.
-/

namespace BehaviorDiff

private theorem exists_split_cons {first text : String} {rest : List String}
    {holds : List String → Prop} :
    (∃ before after, first :: rest = before ++ text :: after ∧ holds before) ↔
      (first = text ∧ holds []) ∨
        ∃ before after, rest = before ++ text :: after ∧ holds (first :: before) := by
  constructor
  · rintro ⟨before, after, split, h⟩
    cases before with
    | nil => exact .inl ⟨(List.cons.inj split).1, h⟩
    | cons other before =>
      obtain ⟨rfl, rfl⟩ := List.cons.inj split
      exact .inr ⟨before, after, rfl, h⟩
  · rintro (⟨rfl, h⟩ | ⟨before, after, rfl, h⟩)
    · exact ⟨[], rest, rfl, h⟩
    · exact ⟨first :: before, after, rfl, h⟩

/-- The blamed text is the first one of a list that stands before it, in the list or elsewhere. -/
theorem firstRepeated?_eq_some_iff {texts earlier : List String} {text : String} :
    firstRepeated? earlier texts = some text ↔
      ∃ before after, texts = before ++ text :: after ∧ (text ∈ before ∨ text ∈ earlier) ∧
        before.Nodup ∧ ∀ other ∈ before, other ∉ earlier := by
  induction texts generalizing earlier with
  | nil => simp [firstRepeated?]
  | cons first rest ih =>
    rw [firstRepeated?, exists_split_cons]
    by_cases known : first ∈ earlier
    · rw [if_pos known, Option.some.injEq]
      constructor
      · rintro rfl
        exact .inl ⟨rfl, .inr known, .nil, fun _ hm => absurd hm List.not_mem_nil⟩
      · rintro (⟨same, -⟩ | ⟨before, after, -, -, -, fresh⟩)
        · exact same
        · exact absurd known (fresh first List.mem_cons_self)
    · rw [if_neg known, ih]
      -- What stands before the rest counts as earlier for the rest.
      have moved (before : List String) :
          ((text ∈ before ∨ text ∈ first :: earlier) ∧ before.Nodup ∧
            ∀ other ∈ before, other ∉ first :: earlier) ↔
          (text ∈ first :: before ∨ text ∈ earlier) ∧ (first :: before).Nodup ∧
            ∀ other ∈ first :: before, other ∉ earlier := by
        grind
      simp only [moved]
      constructor
      · exact .inr
      · rintro (⟨rfl, found, -⟩ | later)
        · exact absurd (found.resolve_left List.not_mem_nil) known
        · exact later

namespace PathIndex

/-- A tree has no index exactly if a path repeats an earlier one; the first such path is blamed. -/
theorem ofTree_eq_error_iff {side : Side} {root : Node} {error : DuplicatePath} :
    ofTree side root = .error error ↔ error.side = side ∧ root.FirstRepeats error.path := by
  have blamed : firstRepeated? [] (root.nodes.map Node.path) = some error.path ↔
      root.FirstRepeats error.path := by
    rw [Node.nodes_eq_preorder, firstRepeated?_eq_some_iff]
    simp [Node.FirstRepeats]
  rw [← blamed]
  unfold ofTree
  split
  · next path found =>
    rw [found, Except.error.injEq, Option.some.injEq]
    constructor
    · rintro rfl
      exact ⟨rfl, rfl⟩
    · rintro ⟨rfl, rfl⟩
      rfl
  · next fresh => simp [fresh]

end PathIndex

/-- A comparison fails on the old tree, or on the new one if the old tree has no path twice. -/
theorem compareTrees_eq_error_iff {options : CompareOptions} {old new : Node}
    {error : DuplicatePath} :
    compareTrees options old new = .error error ↔
      (error.side = .old ∧ old.FirstRepeats error.path) ∨
        ((old.preorder.map Node.path).Nodup ∧ error.side = .new ∧ new.FirstRepeats error.path) := by
  rw [← PathIndex.ofTree_eq_error_iff, ← PathIndex.ofTree_eq_error_iff, compareTrees]
  cases ho : PathIndex.ofTree .old old with
  | error found =>
    have repeated : ¬ (old.preorder.map Node.path).Nodup := by
      intro distinct
      obtain ⟨index, nodes⟩ := exists_index_of_nodup distinct
      rw [PathIndex.ofTree_eq_ok_iff.2 nodes] at ho
      cases ho
    simp [bind, Except.bind, repeated]
  | ok oldIndex =>
    have distinct : (old.preorder.map Node.path).Nodup := by
      rw [← PathIndex.ofTree_eq_ok_iff.1 ho]
      exact oldIndex.nodup
    cases hn : PathIndex.ofTree .new new with
    | error found => simp [bind, Except.bind, distinct]
    | ok newIndex => simp [bind, Except.bind, pure, Except.pure]

/-- A comparison fails if and only if one of the trees has a path twice. It blames the old tree if
that has one, and the first path that an earlier node has already. In a plain tree that is the path
of the first node with an earlier sibling of its tag and its identity. -/
theorem compareTrees_rejects_repetition (options : CompareOptions) (old new : Node) :
    ((∃ error, compareTrees options old new = .error error) ↔
      ¬ (old.preorder.map Node.path).Nodup ∨ ¬ (new.preorder.map Node.path).Nodup) ∧
    (∀ error, compareTrees options old new = .error error ↔
      (error.side = .old ∧ old.FirstRepeats error.path) ∨
        ((old.preorder.map Node.path).Nodup ∧ error.side = .new ∧
          new.FirstRepeats error.path)) ∧
    ∀ draft : Draft, (∀ node ∈ draft.build.preorder, node.Plain) →
      (¬ (draft.build.preorder.map Node.path).Nodup ↔
        ∃ position, draft.build.RepeatsSibling position) ∧
      ∀ path, draft.build.FirstRepeats path ↔
        ∃ position, draft.build.FirstRepeatsSibling position ∧
          (draft.build.at? position).map Node.path = some path := by
  refine ⟨?_, fun error => compareTrees_eq_error_iff, fun draft plain => ⟨?_, fun path => ?_⟩⟩
  · rw [← not_and_or, ← @exists_changes_iff options]
    cases compareTrees options old new <;> simp
  · rw [Draft.nodup_paths_iff plain, not_forall]
    simp only [Classical.not_not]
  · exact Draft.firstRepeats_iff plain

/-- A sequence that docks before and behind another action. -/
def dockTwice : Draft :=
  let dock := ((Draft.new "SubTree").setAttribute "ID" "dock").pushChild (Draft.new "Action")
  (((Draft.new "Sequence").pushChild dock).pushChild (Draft.new "Action")).pushChild dock

theorem compareTrees_rejects_dockTwice :
    (∀ node ∈ dockTwice.build.preorder, node.Plain) ∧
      compareTrees .all dockTwice.build (Draft.new "Sequence").build =
        .error ⟨.old, "Sequence/SubTree[@ID='dock']"⟩ ∧
      ∃ position, dockTwice.build.FirstRepeatsSibling position ∧
        (dockTwice.build.at? position).map Node.path = some "Sequence/SubTree[@ID='dock']" := by
  have plain : ∀ node ∈ dockTwice.build.preorder, node.Plain := by decide
  have repeated : dockTwice.build.FirstRepeats "Sequence/SubTree[@ID='dock']" :=
    ⟨["Sequence", "Sequence/SubTree[@ID='dock']", "Sequence/SubTree[@ID='dock']/Action[0]",
      "Sequence/Action[0]"], ["Sequence/SubTree[@ID='dock']/Action[0]"],
      by decide, by decide, by decide⟩
  obtain ⟨-, blamed, readable⟩ :=
    compareTrees_rejects_repetition .all dockTwice.build (Draft.new "Sequence").build
  exact ⟨plain, (blamed _).2 (.inl ⟨rfl, repeated⟩), ((readable dockTwice plain).2 _).1 repeated⟩

end BehaviorDiff
