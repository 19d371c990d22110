import BehaviorDiff.Proofs.Command.Steps
import BehaviorDiff.Proofs.Markup.WrittenForest
import BehaviorDiff.Proofs.Report.Counts

set_option autoImplicit false

/-!
Whether two files differ. The answer is given at three places: by the changes of a comparison, by
the counts and lists of a report, and by the exit code. The counts are of all changes, shown or not,
so the three agree, and nothing that only concerns how a report is written has a say.
-/

namespace BehaviorDiff

theorem TreeDiff.hasChanges_iff {diff : TreeDiff} :
    diff.hasChanges = true ↔ ∃ change ∈ diff.changes, change.kind ≠ .unchanged := by
  simp [TreeDiff.hasChanges, Change.isChange]

section Reports
variable (sources : Sources) (now : Timestamp) (shown : Bool)

theorem TreeReport.changed_ofDiff (diff : TreeDiff) :
    decide ((TreeReport.ofDiff diff shown).summary.changed > 0) = diff.hasChanges := by
  rw [Bool.eq_iff_iff, decide_eq_true_iff, TreeDiff.hasChanges_iff]
  exact Summary.changed_pos_iff

/-- A report on a tree says what the changes of the tree say, shown or not. -/
theorem Report.hasChanges_ofTree (diff : TreeDiff) :
    (Report.ofTree sources now diff shown).hasChanges = diff.hasChanges := by
  simp [Report.hasChanges, Report.ofTree, TreeReport.changed_ofDiff]

/-- A report on two documents says what their comparison says. -/
theorem Report.hasChanges_ofDocuments (diff : DocumentDiff) :
    (Report.ofDocuments sources now diff shown).hasChanges = diff.hasChanges := by
  have trees : ((diff.trees.map fun tree => TreeReport.ofDiff tree shown).any fun tree =>
      tree.summary.changed > 0) = diff.trees.any TreeDiff.hasChanges := by
    rw [List.any_map]
    exact congrArg diff.trees.any (funext (TreeReport.changed_ofDiff shown))
  rw [Report.hasChanges, DocumentDiff.hasChanges, ← trees]
  simp [Report.ofDocuments]

end Reports

namespace Run
open Markup (parseDocument)

variable (files : Files) (now : Timestamp) (request : CompareRequest) (preferences : Preferences)

/-- Whether the comparison that is asked for finds a difference, or why it fails. -/
def verdict : Except Failure Bool :=
  (documentAt files request.old).bind fun old =>
    (documentAt files request.new).bind fun new =>
      (preferences.compareOptions.mapError .preferences).bind fun options =>
        if request.all then
          ((compareDocuments options old new).mapError .duplicatePath).map DocumentDiff.hasChanges
        else
          (selectedDiff options (selectionRule request preferences) old new).map
            TreeDiff.hasChanges

/-- What is reported as changed depends on nothing that is only about how it is written. -/
theorem gives_hasChanges :
    Gives (Comparison.hasChanges <$> runCompare files now request preferences)
      (verdict files request preferences) := by
  rw [runCompare]
  simp only [map_bind, map_pure]
  refine (gives_readDocument files request.old).bind fun old => ?_
  refine (gives_readDocument files request.new).bind fun new => ?_
  refine (gives_orFail .preferences preferences.compareOptions).bind fun options => ?_
  cases request.all with
  | true =>
    simp only [if_true, bind_pure_comp, Functor.map_map, Report.hasChanges_ofDocuments]
    exact (gives_compareAll options old new).map DocumentDiff.hasChanges
  | false =>
    simp only [Bool.false_eq_true, if_false, bind_pure_comp, Functor.map_map,
      Report.hasChanges_ofTree]
    exact (gives_compareSelected options _ old new).map TreeDiff.hasChanges

/-- Differences have an exit code of their own if that is asked for. -/
def codeOf (changed : Bool) : ExitCode :=
  if request.exitCode && changed then .changesDetected else .success

theorem gives_exitCode :
    Gives (Outcome.exitCode <$> compare files now request preferences)
      ((verdict files request preferences).map (codeOf request)) := by
  have split : Outcome.exitCode <$> compare files now request preferences =
      codeOf request <$> (Comparison.hasChanges <$> runCompare files now request preferences) := by
    rw [compare]
    simp only [bind_pure_comp, Functor.map_map]
    rfl
  rw [split]
  exact (gives_hasChanges files now request preferences).map (codeOf request)

variable {files now request preferences}

theorem of_verdict_eq_ok {changed : Bool}
    (judged : verdict files request preferences = .ok changed) :
    ∃ old new options, documentAt files request.old = .ok old ∧
      documentAt files request.new = .ok new ∧ preferences.compareOptions = .ok options ∧
      (request.all = false → ∃ diff,
        selectedDiff options (selectionRule request preferences) old new = .ok diff ∧
          diff.hasChanges = changed) ∧
      (request.all = true → ∃ diff, compareDocuments options old new = .ok diff ∧
        diff.hasChanges = changed) := by
  obtain ⟨old, oldRead, rest⟩ := bind_eq_ok_iff.1 judged
  obtain ⟨new, newRead, rest⟩ := bind_eq_ok_iff.1 rest
  obtain ⟨options, compiled, rest⟩ := bind_eq_ok_iff.1 rest
  refine ⟨old, new, options, oldRead, newRead, mapError_eq_ok_iff.1 compiled, fun single => ?_,
    fun all => ?_⟩
  · rw [single] at rest
    exact map_eq_ok_iff.1 rest
  · rw [all] at rest
    obtain ⟨diff, compared, answer⟩ := map_eq_ok_iff.1 rest
    exact ⟨diff, mapError_eq_ok_iff.1 compared, answer⟩

theorem exists_outcome_of_verdict {changed : Bool}
    (judged : verdict files request preferences = .ok changed) (now : Timestamp)
    (journal : Journal) :
    ∃ outcome, (compare files now request preferences).result journal = .ok outcome ∧
      outcome.exitCode = codeOf request changed := by
  have code := gives_exitCode files now request preferences journal
  rw [result_map, judged] at code
  exact map_eq_ok_iff.1 code

/-- Where a comparison succeeds, it finds a difference exactly if the changes of the selected tree,
or the comparison of the two documents, have one; a report says the same whatever it shows. The exit
code tells a difference if it is asked to, however the report is written. -/
theorem compare_verdict {journal : Journal} {comparison : Comparison}
    (succeeds : (runCompare files now request preferences).result journal = .ok comparison) :
    ∃ oldText newText old new options,
      files.read request.old = .ok oldText ∧ parseDocument oldText = .ok old ∧
      files.read request.new = .ok newText ∧ parseDocument newText = .ok new ∧
      preferences.compareOptions = .ok options ∧
      (request.all = false → ∃ selection oldRoot newRoot changes,
        selectTree (selectionRule request preferences) old new = .ok selection ∧
        old.get? selection.name = some oldRoot ∧ new.get? selection.name = some newRoot ∧
        compareTrees options oldRoot newRoot = .ok changes ∧
        (comparison.hasChanges = true ↔ ∃ change ∈ changes, change.kind ≠ .unchanged) ∧
        ∀ sources time shown, (Report.ofTree sources time ⟨selection.name, changes⟩
          shown).hasChanges = comparison.hasChanges) ∧
      (request.all = true → ∃ diff, compareDocuments options old new = .ok diff ∧
        comparison.hasChanges = diff.hasChanges ∧
        ∀ sources time shown, (Report.ofDocuments sources time diff shown).hasChanges =
          comparison.hasChanges) ∧
      ∀ (time : Timestamp) (format : Option OutputFormat) (outputFormat : OutputFormat)
        (shown alwaysShown : Bool) (earlier : Journal), ∃ outcome,
          (compare files time { request with format, showUnchanged := shown }
            { preferences with outputFormat, showUnchanged := alwaysShown }).result earlier =
              .ok outcome ∧
          outcome.exitCode.number =
            if request.exitCode = true ∧ comparison.hasChanges = true then 4 else 0 := by
  have judged : verdict files request preferences = .ok comparison.hasChanges := by
    rw [← gives_hasChanges files now request preferences journal, result_map, succeeds]
    rfl
  obtain ⟨old, new, options, oldRead, newRead, compiled, single, all⟩ := of_verdict_eq_ok judged
  obtain ⟨oldText, oldFound, oldParsed⟩ := documentAt_eq_ok_iff.1 oldRead
  obtain ⟨newText, newFound, newParsed⟩ := documentAt_eq_ok_iff.1 newRead
  refine ⟨oldText, newText, old, new, options, oldFound, oldParsed, newFound, newParsed, compiled,
    fun h => ?_, fun h => ?_, ?_⟩
  · obtain ⟨diff, selected, answer⟩ := single h
    obtain ⟨selection, oldRoot, newRoot, changes, chosen, ho, hn, compared, rfl⟩ :=
      selectedDiff_eq_ok_iff.1 selected
    rw [← answer]
    exact ⟨selection, oldRoot, newRoot, changes, chosen, ho, hn, compared, TreeDiff.hasChanges_iff,
      fun sources time shown => Report.hasChanges_ofTree sources time shown _⟩
  · obtain ⟨diff, compared, answer⟩ := all h
    rw [← answer]
    exact ⟨diff, compared, rfl,
      fun sources time shown => Report.hasChanges_ofDocuments sources time shown diff⟩
  · intro time format outputFormat shown alwaysShown earlier
    -- The verdict reads neither the format nor what is shown.
    have unmoved : verdict files { request with format, showUnchanged := shown }
        { preferences with outputFormat, showUnchanged := alwaysShown } =
          .ok comparison.hasChanges := judged
    obtain ⟨outcome, compared, code⟩ := exists_outcome_of_verdict unmoved time earlier
    refine ⟨outcome, compared, ?_⟩
    rw [code, codeOf]
    cases request.exitCode <;> cases comparison.hasChanges <;> rfl

/-- A tree with one action on a door. -/
def doorForest (action : String) : List Draft :=
  [⟨Markup.treeTag, .ofList [("ID", "Door")], [⟨"Action", .ofList [("ID", action)], []⟩]⟩]

/-- The text of the tree. -/
def doorText (action : String) : String := .ofList (Markup.printForest (doorForest action))

/-- A file in which the door is opened; in every other one it is closed. -/
def doorFiles : Files where
  entry path := .file (doorText (if path = "old.xml" then "Open" else "Close")).toUTF8

theorem parseDocument_doorText (action : String) :
    parseDocument (doorText action) = .ok (Markup.documentOf (doorForest action)) := by
  have named (value : String) :
      ∀ key ∈ (OrderedMap.ofList [("ID", value)]).keys, Markup.IsWord key.toList := by
    intro key hm
    rw [List.mem_singleton.1 hm]
    exact (by decide : Markup.IsWord "ID".toList)
  have worded : Markup.Worded (doorForest action) :=
    .cons (by decide) (named "Door") (.cons (by decide) (named action) .nil .nil) .nil
  refine Markup.parseDocument_of_written worded ?_
  rw [doorText, String.toList_ofList]
  exact Markup.written_printForest (doorForest action)

theorem documentAt_doorFiles (path : String) :
    documentAt doorFiles path =
      .ok (Markup.documentOf (doorForest (if path = "old.xml" then "Open" else "Close"))) := by
  have decoded (text : String) : String.fromUTF8? text.toUTF8 = some text :=
    dif_pos text.isValidUTF8
  refine documentAt_eq_ok_iff.2 ⟨_, ?_, parseDocument_doorText _⟩
  simp only [Files.read, doorFiles, decoded]

/-- A comparison of the two files that tells by its exit code. -/
def doorRequest : CompareRequest := ⟨"old.xml", "new.xml", none, [], none, false, false, true⟩

theorem verdict_door : verdict doorFiles doorRequest .default = .ok true := by
  rw [verdict, documentAt_doorFiles, documentAt_doorFiles]
  decide +kernel

theorem compare_verdict_door :
    ∃ comparison, (runCompare doorFiles .epoch doorRequest .default).result [] = .ok comparison ∧
      comparison.hasChanges = true ∧
      ∃ outcome, (compare doorFiles .epoch { doorRequest with format := some .json }
          .default).result [] = .ok outcome ∧ outcome.exitCode.number = 4 := by
  have judged := gives_hasChanges doorFiles .epoch doorRequest .default []
  rw [verdict_door, result_map] at judged
  obtain ⟨comparison, succeeds, differs⟩ := map_eq_ok_iff.1 judged
  obtain ⟨-, -, -, -, -, -, -, -, -, -, -, -, exits⟩ := compare_verdict succeeds
  obtain ⟨outcome, compared, code⟩ := exits .epoch (some .json) .text false false []
  exact ⟨comparison, succeeds, differs, outcome, compared, by rw [code, differs]; rfl⟩

end Run

end BehaviorDiff
