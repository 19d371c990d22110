import BehaviorDiff.Proofs.Diff.Content
import BehaviorDiff.Proofs.Diff.Relocation
import BehaviorDiff.Proofs.Tree.Address

set_option autoImplicit false

/-!
Paths as addresses across trees. Two built trees without slashes, brackets and quotes in the wrong
places have one path in common exactly where they have one chain in common; so a comparison matches
only nodes at one depth and of one tag, and these differ in attributes alone.
-/

namespace BehaviorDiff

/-- Nodes of one tag and kind differ in attributes alone. -/
theorem delta_compareContent {before after : Node} (tag : before.tag = after.tag)
    (kind : before.kind = after.kind) (options : CompareOptions) :
    (compareContent options before after).delta.tag = none ∧
      (compareContent options before after).delta.kind = none := by
  rcases compareContent_cases options before after with ⟨h, -⟩ | h
  · rw [h]
    exact ⟨rfl, rfl⟩
  · rw [h]
    change delta? before.tag after.tag = none ∧ delta? before.kind after.kind = none
    rw [tag, kind]
    exact ⟨delta?_self _, delta?_self _⟩

/-- A modified or unchanged node is the comparison of two nodes at one path. -/
theorem Moves.exists_matched_of_mem_settled {options : CompareOptions} {old new : PathIndex}
    {moves : List Move} {change : Change} (hm : change ∈ settled options old new moves)
    (matched : change.kind = .modified ∨ change.kind = .unchanged) :
    ∃ before after, before ∈ old.nodes ∧ after ∈ new.nodes ∧ before.path = after.path ∧
      change = compareContent options before after := by
  rcases mem_settled_iff.1 hm with ⟨node, -, ho, rfl⟩ | ⟨node, -, rfl⟩
  · rcases changeOfOld_cases options new moves node with
      ⟨other, found, h⟩ | ⟨move, -, -, h⟩ | ⟨-, -, h⟩
    · obtain ⟨hn, same⟩ := PathIndex.get?_eq_some_iff.1 found
      exact ⟨node, other, ho, hn, same.symm, h⟩
    · rw [h] at matched
      rcases matched with matched | matched <;> cases matched
    · rw [h] at matched
      rcases matched with matched | matched <;> cases matched
  · rcases matched with matched | matched <;> cases matched

section Build
variable {old new : Draft} {before after : Node} {chain chain' : Chain}
  (reached : ChainTo old.build chain before) (reached' : ChainTo new.build chain' after)

include reached reached'

/-- Two nodes of plain trees have one path exactly if they stand at the end of one chain. -/
theorem path_eq_iff_chain_eq (oldPlain : ∀ node ∈ old.build.preorder, node.Plain)
    (newPlain : ∀ node ∈ new.build.preorder, node.Plain) :
    before.path = after.path ↔ chain = chain' := by
  obtain ⟨draft, rfl⟩ := reached.exists_draft
  obtain ⟨draft', rfl⟩ := reached'.exists_draft
  rw [Draft.path_buildAt, Draft.path_buildAt]
  constructor
  · exact Chain.eq_of_path_eq (reached.plain oldPlain) (reached'.plain newPlain)
  · exact congrArg Chain.path

/-- Nodes at the end of one chain have one depth, tag and kind. -/
theorem alike_of_chain_eq (same : chain = chain') :
    before.depth = after.depth ∧ before.tag = after.tag ∧ before.kind = after.kind := by
  subst same
  have tags : before.tag = after.tag := reached.tag_eq.trans reached'.tag_eq.symm
  obtain ⟨draft, rfl⟩ := reached.exists_draft
  obtain ⟨draft', rfl⟩ := reached'.exists_draft
  rw [Draft.tag_buildAt, Draft.tag_buildAt] at tags
  simp [tags]

end Build

/-- In two plain trees every node stands at the end of a chain, and nodes have one path exactly if
their chains agree. So a modified or unchanged node keeps its depth, its tag and its kind. -/
theorem paths_address_chains (old new : Draft)
    (oldPlain : ∀ node ∈ old.build.preorder, node.Plain)
    (newPlain : ∀ node ∈ new.build.preorder, node.Plain) :
    (∀ node ∈ old.build.preorder, ∃ chain, ChainTo old.build chain node) ∧
    (∀ node ∈ new.build.preorder, ∃ chain, ChainTo new.build chain node) ∧
    (∀ a b chain chain', ChainTo old.build chain a → ChainTo new.build chain' b →
      (a.path = b.path ↔ chain = chain')) ∧
    ∀ options changes, compareTrees options old.build new.build = .ok changes →
      ∀ change ∈ changes, change.kind = .modified ∨ change.kind = .unchanged →
        ∃ before after, change.old? = some before ∧ change.new? = some after ∧
          before.depth = after.depth ∧ before.tag = after.tag ∧ before.kind = after.kind ∧
          change.delta.tag = none ∧ change.delta.kind = none := by
  refine ⟨fun node => exists_chain_of_mem_preorder, fun node => exists_chain_of_mem_preorder,
    fun a b chain chain' reached reached' =>
      path_eq_iff_chain_eq reached reached' oldPlain newPlain,
    fun options changes compared change hm matched => ?_⟩
  obtain ⟨oldIndex, newIndex, moves, ho, hn, -, rfl⟩ := exists_settled_of_compareTrees compared
  obtain ⟨before, after, hb, ha, same, rfl⟩ := Moves.exists_matched_of_mem_settled hm matched
  rw [ho] at hb
  rw [hn] at ha
  obtain ⟨chain, reached⟩ := exists_chain_of_mem_preorder hb
  obtain ⟨chain', reached'⟩ := exists_chain_of_mem_preorder ha
  have chains := (path_eq_iff_chain_eq reached reached' oldPlain newPlain).1 same
  obtain ⟨depth, tag, kind⟩ := alike_of_chain_eq reached reached' chains
  exact ⟨before, after, old?_compareContent options before after,
    new?_compareContent options before after, depth, tag, kind,
    delta_compareContent tag kind options⟩

/-- A sequence of an action with an identity and one with a port alone. -/
def twoActions (id port : String) : Draft :=
  ((Draft.new "Sequence").pushChild ((Draft.new "Action").setAttribute "ID" id)).pushChild
    ((Draft.new "Action").setAttribute "port" port)

theorem paths_address_twoActions :
    (∀ node ∈ (twoActions "a/b[0]" "1").build.preorder, node.Plain) ∧
      (∀ node ∈ (twoActions "a" "2").build.preorder, node.Plain) ∧
        ∃ changes, compareTrees .all (twoActions "a/b[0]" "1").build (twoActions "a" "2").build =
            .ok changes ∧
          changes.map Change.kind = [.unchanged, .removed, .modified, .added] ∧
            ∀ change ∈ changes, change.kind = .modified →
              change.delta.tag = none ∧ change.delta.kind = none := by
  have oldPlain : ∀ node ∈ (twoActions "a/b[0]" "1").build.preorder, node.Plain := by decide
  have newPlain : ∀ node ∈ (twoActions "a" "2").build.preorder, node.Plain := by decide
  obtain ⟨changes, compared, kinds⟩ : ∃ changes,
      compareTrees .all (twoActions "a/b[0]" "1").build (twoActions "a" "2").build = .ok changes ∧
        changes.map Change.kind = [.unchanged, .removed, .modified, .added] :=
    ⟨_, compareTrees_eq_ok_iff.2 ⟨⟨(twoActions "a/b[0]" "1").build.preorder, by decide⟩,
      ⟨(twoActions "a" "2").build.preorder, by decide⟩, rfl, rfl, rfl⟩, by decide⟩
  obtain ⟨-, -, -, alike⟩ := paths_address_chains _ _ oldPlain newPlain
  refine ⟨oldPlain, newPlain, changes, compared, kinds, fun change hm modified => ?_⟩
  obtain ⟨before, after, -, -, -, -, -, sameContent⟩ :=
    alike .all changes compared change hm (.inl modified)
  exact sameContent

end BehaviorDiff
