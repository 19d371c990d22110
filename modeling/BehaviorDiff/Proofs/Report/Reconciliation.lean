import BehaviorDiff.Proofs.Diff.ChangeList
import BehaviorDiff.Proofs.Diff.SharedTrees
import BehaviorDiff.Proofs.Report.Counts
import BehaviorDiff.Proofs.Tree.Statistics
import BehaviorDiff.Report.Text

set_option autoImplicit false

/-!
The numbers of a report and what they stand for. Every node of either version of a tree is one side
of one change, and a moved node is a side of the same change in both versions, so the counts add up
to the numbers of nodes on both sides. What is shown is another matter: records of unchanged nodes
are left out unless they are asked for, and the counts do not depend on it.
-/

namespace BehaviorDiff

theorem ChangeRecord.text_ne_noChanges (record : ChangeRecord) : record.text ≠ "No changes." := by
  intro same
  have first := congrArg (fun text => text.toList.head?) same
  rw [text] at first
  cases kind : record.kind <;> simp [kind] at first

namespace TreeReport

/-- The remark that there is nothing to show stands for an empty list of records. -/
theorem noChanges_mem_entries_iff {report : TreeReport} :
    "No changes." ∈ report.entries ↔ report.changes = [] := by
  rw [entries]
  constructor
  · intro hm
    by_contra shown
    rw [if_neg (mt List.isEmpty_iff.1 shown)] at hm
    obtain ⟨record, -, here⟩ := List.mem_flatMap.1 hm
    rcases List.mem_cons.1 here with same | blank
    · exact record.text_ne_noChanges same.symm
    · exact absurd (List.mem_singleton.1 blank) (by decide)
  · intro none
    rw [none]
    exact List.mem_cons_self

/-- The text of a report holds the block of each of its trees. -/
theorem exists_blocks_of_mem {report : Report} {tree : TreeReport} (hm : tree ∈ report.trees) :
    ∃ lines, report.text = "\n".intercalate lines ∧ tree.blocks <:+: lines := by
  obtain ⟨earlier, later, split⟩ := List.append_of_mem hm
  have inside : tree.blocks <:+: report.trees.flatMap blocks := by
    rw [split, List.flatMap_append, List.flatMap_cons, ← List.append_assoc]
    exact List.infix_append _ _ _
  refine ⟨_, rfl, inside.trans ?_⟩
  rw [List.append_assoc, List.append_assoc]
  exact List.infix_append _ _ _

section Records
variable (name : String) (changes : List Change)

theorem changes_ofDiff_shown :
    (ofDiff ⟨name, changes⟩ true).changes = changes.map .ofChange := by
  simp [ofDiff]

/-- Without unchanged nodes the list of records is the same but for theirs. -/
theorem changes_ofDiff_hidden :
    (ofDiff ⟨name, changes⟩ false).changes =
      (ofDiff ⟨name, changes⟩ true).changes.filter (·.kind ≠ .unchanged) := by
  rw [changes_ofDiff_shown, List.filter_map]
  simp only [ofDiff, Bool.false_or]
  rfl

theorem map_kind_ofDiff (shown : Bool) :
    (ofDiff ⟨name, changes⟩ shown).changes.map ChangeRecord.kind =
      (changes.map Change.kind).filter fun kind => shown || kind ≠ .unchanged := by
  rw [ofDiff, List.map_map, List.filter_map]
  rfl

/-- Of every class that is shown there are as many records as are counted. -/
theorem count_kind_ofDiff {shown : Bool} {kind : ChangeKind}
    (visible : shown = true ∨ kind ≠ .unchanged) :
    ((ofDiff ⟨name, changes⟩ shown).changes.map ChangeRecord.kind).count kind =
      (Summary.of changes).count kind := by
  rw [map_kind_ofDiff, List.count_filter (by simpa using visible), Summary.count_of]

/-- Nothing is shown exactly if unchanged nodes are hidden and nothing else is counted. -/
theorem changes_ofDiff_eq_nil_iff (some_change : changes ≠ []) (shown : Bool) :
    (ofDiff ⟨name, changes⟩ shown).changes = [] ↔
      shown = false ∧ (Summary.of changes).changed = 0 := by
  cases shown with
  | true => simpa [changes_ofDiff_shown] using some_change
  | false =>
    have quiet : (Summary.of changes).changed = 0 ↔
        ∀ change ∈ changes, change.kind = .unchanged := by
      rw [← not_iff_not, ← ne_eq, ← Nat.pos_iff_ne_zero, Summary.changed_pos_iff]
      simp
    rw [quiet, changes_ofDiff_hidden, changes_ofDiff_shown, List.filter_eq_nil_iff]
    simp [ChangeRecord.ofChange]

end Records

end TreeReport

/-- The report on two documents has one entry for a tree that both define. There the counts of the
classes with a new node add up to the nodes of the new version and those with an old node to the
nodes of the old one. The counts do not depend on what is shown; shown are all changes in order, or
all but the unchanged ones, and of a class that is shown as many as are counted. The text says of a
tree that there are no changes exactly if unchanged nodes are hidden and no change is counted. -/
theorem report_reconciles_counts {options : CompareOptions} {old new : Document}
    {diff : DocumentDiff} (compared : compareDocuments options old new = .ok diff)
    (sources : Sources) (now : Timestamp) {name : String} {oldRoot newRoot : Node}
    (ho : old.get? name = some oldRoot) (hn : new.get? name = some newRoot) :
    ∃ changes, compareTrees options oldRoot newRoot = .ok changes ∧
      ∃ report : Bool → TreeReport, (∀ shown,
        report shown ∈ (Report.ofDocuments sources now diff shown).trees ∧
        (report shown).name = name ∧
        (∀ other ∈ (Report.ofDocuments sources now diff shown).trees, other.name = name →
          other = report shown) ∧
        (report shown).summary.added + (report shown).summary.modified +
          (report shown).summary.moved + (report shown).summary.unchanged =
            (TreeStats.of newRoot).total ∧
        (report shown).summary.removed + (report shown).summary.modified +
          (report shown).summary.moved + (report shown).summary.unchanged =
            (TreeStats.of oldRoot).total ∧
        (∀ kind, shown = true ∨ kind ≠ .unchanged →
          ((report shown).changes.map ChangeRecord.kind).count kind =
            (report shown).summary.count kind) ∧
        (∃ lines, (Report.ofDocuments sources now diff shown).text = "\n".intercalate lines ∧
          ["Tree: " ++ name, (report shown).summary.text, ""] ++ (report shown).entries <:+:
            lines) ∧
        ("No changes." ∈ (report shown).entries ↔
          shown = false ∧ (report shown).summary.changed = 0)) ∧
      (report false).summary = (report true).summary ∧
      (report true).changes = changes.map .ofChange ∧
      (report false).changes = (report true).changes.filter (·.kind ≠ .unchanged) := by
  obtain ⟨changes, hm, found⟩ := exists_mem_trees_of_get? compared ho hn
  obtain ⟨⟨olds, -⟩, ⟨news, -⟩, -⟩ := compareTrees_partitions_nodes options oldRoot newRoot found
  have some_change : changes ≠ [] := by
    rintro rfl
    rw [Node.preorder_eq] at olds
    cases olds
  have newSide : (changes.filterMap Change.new?).length = (TreeStats.of newRoot).total := by
    rw [news.length_eq, TreeStats.total_of]
  have oldSide : (changes.filterMap Change.old?).length = (TreeStats.of oldRoot).total := by
    rw [olds, TreeStats.total_of]
  refine ⟨changes, found, fun shown => .ofDiff ⟨name, changes⟩ shown, fun shown => ?_, rfl,
    TreeReport.changes_ofDiff_shown name changes, TreeReport.changes_ofDiff_hidden name changes⟩
  have listed : TreeReport.ofDiff ⟨name, changes⟩ shown ∈
      (Report.ofDocuments sources now diff shown).trees := List.mem_map_of_mem hm
  have distinct := old.names_nodup.filter new.contains
  rw [← names_trees_ofDocuments compared sources now shown] at distinct
  refine ⟨listed, rfl, fun other hm' => List.inj_on_of_nodup_map distinct hm' listed, ?_, ?_,
    fun kind => TreeReport.count_kind_ofDiff name changes,
    TreeReport.exists_blocks_of_mem listed, ?_⟩
  · rw [← newSide, Summary.length_new_sides]
    rfl
  · rw [← oldSide, Summary.length_old_sides]
    rfl
  · rw [TreeReport.noChanges_mem_entries_iff]
    exact TreeReport.changes_ofDiff_eq_nil_iff name changes some_change shown

/-- A document with one tree. -/
def loneTree (draft : Draft) : Document := .ofList [("Main", draft.build)]

theorem exists_diff_of_loneTree {old new : Draft}
    (oldDistinct : (old.build.preorder.map Node.path).Nodup)
    (newDistinct : (new.build.preorder.map Node.path).Nodup) :
    ∃ diff, compareDocuments .all (loneTree old) (loneTree new) = .ok diff := by
  have tree {draft : Draft} {name : String} {root : Node}
      (found : (loneTree draft).get? name = some root) : root = draft.build := by
    have defined : (name, root) ∈ [("Main", draft.build)] := Document.mem_definitions_iff.2 found
    exact (Prod.mk.inj (List.mem_singleton.1 defined)).2
  cases compared : compareDocuments .all (loneTree old) (loneTree new) with
  | ok diff => exact ⟨diff, rfl⟩
  | error error =>
    obtain ⟨name, oldRoot, newRoot, ho, hn, repeated⟩ := exists_error_iff.1 ⟨error, compared⟩
    rw [tree ho, tree hn] at repeated
    exact absurd ⟨oldDistinct, newDistinct⟩ repeated

theorem report_reconciles_action :
    ∃ diff, compareDocuments .all (loneTree actionInFallback) (loneTree actionBehindFallback) =
        .ok diff ∧
      (loneTree actionInFallback).get? "Main" = some actionInFallback.build ∧
      (loneTree actionBehindFallback).get? "Main" = some actionBehindFallback.build ∧
      ∃ report : TreeReport, report ∈ (Report.ofDocuments ⟨"a", "b"⟩ .epoch diff false).trees ∧
        report.summary.added + report.summary.modified + report.summary.moved +
          report.summary.unchanged = 3 ∧
        report.summary.removed + report.summary.modified + report.summary.moved +
          report.summary.unchanged = 3 := by
  obtain ⟨diff, compared⟩ : ∃ diff,
      compareDocuments .all (loneTree actionInFallback) (loneTree actionBehindFallback) =
        .ok diff := exists_diff_of_loneTree (by decide) (by decide)
  obtain ⟨changes, -, report, reported, -⟩ := report_reconciles_counts compared ⟨"a", "b"⟩ .epoch
    (show (loneTree actionInFallback).get? "Main" = some actionInFallback.build from rfl)
    (show (loneTree actionBehindFallback).get? "Main" = some actionBehindFallback.build from rfl)
  obtain ⟨listed, -, -, newSide, oldSide, -⟩ := reported false
  refine ⟨diff, compared, rfl, rfl, report false, listed, newSide.trans ?_, oldSide.trans ?_⟩
  · rw [TreeStats.total_of]
    rfl
  · rw [TreeStats.total_of]
    rfl

end BehaviorDiff
