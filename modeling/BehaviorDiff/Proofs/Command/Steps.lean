import BehaviorDiff.Command.Run
import BehaviorDiff.Proofs.Diff.SharedTrees

set_option autoImplicit false

/-!
What the steps of a command give. A step adds to the journal but never reads it, so its result is
the same whatever has been noted before. Each step is described by the result it gives; the
description of a command is put together from those of its steps.
-/

namespace BehaviorDiff.Run

open Markup (parseDocument definitionsOf)

theorem bind_eq_ok_iff {ε α β : Type} {x : Except ε α} {f : α → Except ε β} {value : β} :
    x.bind f = .ok value ↔ ∃ a, x = .ok a ∧ f a = .ok value := by
  cases x <;> simp [Except.bind]

theorem mapError_eq_ok_iff {ε ε' α : Type} {x : Except ε α} {f : ε → ε'} {value : α} :
    x.mapError f = .ok value ↔ x = .ok value := by
  cases x <;> simp [Except.mapError]

theorem map_eq_ok_iff {ε α β : Type} {x : Except ε α} {f : α → β} {value : β} :
    x.map f = .ok value ↔ ∃ a, x = .ok a ∧ f a = value := by
  cases x <;> simp [Except.map]

theorem map_bind_except {ε α β γ : Type} (x : Except ε α) (f : α → Except ε β) (g : β → γ) :
    (x.bind f).map g = x.bind fun value => (f value).map g := by
  cases x <;> rfl

theorem bind_eq_error_iff {ε α β : Type} {x : Except ε α} {f : α → Except ε β} {error : ε} :
    x.bind f = .error error ↔ x = .error error ∨ ∃ a, x = .ok a ∧ f a = .error error := by
  cases x <;> simp [Except.bind]

theorem mapError_eq_error_iff {ε ε' α : Type} {x : Except ε α} {f : ε → ε'} {error : ε'} :
    x.mapError f = .error error ↔ ∃ e, x = .error e ∧ f e = error := by
  cases x <;> simp [Except.mapError]

theorem forM_eq_ok_iff {ε α : Type} {items : List α} {check : α → Except ε Unit} :
    items.forM check = .ok () ↔ ∀ item ∈ items, check item = .ok () := by
  induction items with
  | nil => simp [pure, Except.pure]
  | cons item rest ih =>
    rw [List.forall_mem_cons, ← ih]
    change (check item).bind (fun _ => rest.forM check) = .ok () ↔ _
    rw [bind_eq_ok_iff]
    exact ⟨fun ⟨_, here, later⟩ => ⟨here, later⟩, fun ⟨here, later⟩ => ⟨(), here, later⟩⟩

/-- The result of a step that is done when a journal has been kept. -/
def result {α : Type} (step : Run α) (journal : Journal) : Except Failure α :=
  (step.run.run journal).1

/-- The step gives this result, whatever has been noted before. -/
def Gives {α : Type} (step : Run α) (outcome : Except Failure α) : Prop :=
  ∀ journal : Journal, step.result journal = outcome

section Gives
variable {α β : Type}

theorem result_bind (step : Run α) (next : α → Run β) (journal : Journal) :
    (step >>= next).result journal =
      (step.result journal).bind fun value => (next value).result (step.run.run journal).2 := by
  change (((step >>= next).run).run journal).1 = _
  rw [ExceptT.run_bind, StateT.run_bind, result]
  cases step.run.run journal with
  | mk outcome noted => cases outcome <;> rfl

theorem result_map (f : α → β) (step : Run α) (journal : Journal) :
    (f <$> step).result journal = (step.result journal).map f := by
  rw [← bind_pure_comp, result_bind]
  cases step.result journal <;> rfl

theorem gives_pure (value : α) : Gives (pure value) (.ok value) := fun _ => rfl

theorem gives_throw (failure : Failure) : Gives (throw failure : Run α) (.error failure) :=
  fun _ => rfl

theorem gives_note (entry : JournalEntry) : Gives (note entry) (.ok ()) := fun _ => rfl

theorem gives_orFail {ε : Type} (failure : ε → Failure) (outcome : Except ε α) :
    Gives (orFail failure outcome) (outcome.mapError failure) := by
  intro journal
  cases outcome <;> rfl

theorem Gives.bind {step : Run α} {next : α → Run β} {outcome : Except Failure α}
    {later : α → Except Failure β} (first : Gives step outcome)
    (rest : ∀ value, Gives (next value) (later value)) :
    Gives (step >>= next) (outcome.bind later) := by
  intro journal
  rw [result_bind, first]
  cases outcome with
  | error failure => rfl
  | ok value => exact rest value _

theorem Gives.map {step : Run α} {outcome : Except Failure α} (h : Gives step outcome)
    (f : α → β) : Gives (f <$> step) (outcome.map f) := by
  intro journal
  rw [result_map, h]

theorem Gives.andThen {step : Run Unit} {next : Unit → Run β} {outcome : Except Failure β}
    (first : Gives step (.ok ())) (rest : Gives (next ()) outcome) :
    Gives (step >>= next) outcome :=
  first.bind fun _ => rest

/-- A step behind which nothing but the journal changes. -/
theorem Gives.keep {step : Run α} {next : α → Run α} {outcome : Except Failure α}
    (first : Gives step outcome) (rest : ∀ value, Gives (next value) (.ok value)) :
    Gives (step >>= next) outcome := by
  have kept : outcome.bind .ok = outcome := by cases outcome <;> rfl
  exact kept ▸ first.bind rest

theorem gives_forM {step : α → Run Unit} {outcome : α → Except Failure Unit} {items : List α}
    (each : ∀ item ∈ items, Gives (step item) (outcome item)) :
    Gives (items.forM step) (items.forM outcome) := by
  induction items with
  | nil => exact gives_pure ()
  | cons item rest ih =>
    obtain ⟨here, later⟩ := List.forall_mem_cons.1 each
    exact here.bind fun _ => ih later

theorem gives_forM_note {entry : α → JournalEntry} (items : List α) :
    Gives (items.forM fun item => note (entry item)) (.ok ()) := by
  have silent : (items.forM fun _ => Except.ok () : Except Failure Unit) = .ok () := by
    induction items with
    | nil => rfl
    | cons item rest ih => exact ih
  rw [← silent]
  exact gives_forM fun item _ => gives_note (entry item)

end Gives

/-- The preferences in a file, or why they cannot be used. -/
def preferencesAt (files : Files) (path : String) : Except Failure Preferences :=
  ((files.read path).mapError (.unreadablePreferences path)).bind fun text =>
    (Preferences.ofYaml text).mapError .preferences

theorem gives_loadPreferences (files : Files) (path : String) :
    Gives (loadPreferences files path) (preferencesAt files path) := by
  refine (gives_orFail _ _).bind fun text => (gives_orFail _ _).keep fun preferences => ?_
  exact (gives_note _).andThen (gives_pure preferences)

/-- The preferences that hold, or why they cannot be used. -/
def foundPreferences (files : Files) : Option String → Except Failure Preferences
  | some path => preferencesAt files path
  | none =>
    if files.isFile preferencesFile then preferencesAt files preferencesFile else .ok .default

theorem gives_findPreferences (files : Files) (named : Option String) :
    Gives (findPreferences files named) (foundPreferences files named) := by
  cases named with
  | some path => exact gives_loadPreferences files path
  | none =>
    rw [findPreferences, foundPreferences]
    split
    · exact gives_loadPreferences files preferencesFile
    · exact (gives_note _).andThen (gives_pure _)

/-- The document in a file, or why there is none. -/
def documentAt (files : Files) (path : String) : Except Failure Document :=
  ((files.read path).mapError (.unreadableDocument path)).bind fun text =>
    (parseDocument text).mapError (Failure.malformedDocument (some path))

theorem gives_readDocument (files : Files) (path : String) :
    Gives (readDocument files path) (documentAt files path) := by
  refine (gives_orFail _ _).bind fun text => ?_
  have described : (parseDocument text).mapError (Failure.malformedDocument (some path)) =
      ((definitionsOf text).mapError (Failure.malformedDocument (some path))).bind
        fun definitions => .ok (Document.ofList definitions) := by
    rw [parseDocument]
    cases definitionsOf text <;> rfl
  rw [described]
  refine (gives_orFail _ _).bind fun definitions => ?_
  exact (gives_forM_note _).andThen ((gives_note _).andThen (gives_pure _))

theorem documentAt_eq_ok_iff {files : Files} {path : String} {document : Document} :
    documentAt files path = .ok document ↔
      ∃ text, files.read path = .ok text ∧ parseDocument text = .ok document := by
  rw [documentAt]
  cases files.read path with
  | error fault => simp [Except.mapError, Except.bind]
  | ok text => cases h : parseDocument text <;> simp [Except.mapError, Except.bind, h]

section Comparisons
variable (options : CompareOptions) (rule : SelectionRule) (old new : Document)

theorem gives_chooseTree :
    Gives (chooseTree rule old new) ((selectTree rule old new).mapError .selection) := by
  rw [chooseTree]
  split
  · refine (gives_forM_note _).andThen ((gives_orFail _ _).keep fun selection => ?_)
    exact (gives_note _).andThen (gives_pure selection)
  · exact (gives_orFail _ _).keep gives_pure

/-- The tree of a name in one of two documents, or the failure that it is not there. -/
def treeAt (document : Document) (side : Side) (name : String) : Except Failure Node :=
  (document.get? name).elim (.error (.selection (.notFound name side))) .ok

theorem gives_requireTree (document : Document) (side : Side) (name : String) :
    Gives (requireTree document side name) (treeAt document side name) := by
  rw [requireTree, treeAt]
  cases document.get? name with
  | none => exact gives_throw _
  | some root => exact gives_pure root

theorem gives_noteComparison (oldRoot newRoot : Node)
    (outcome : Except DuplicatePath (List Change)) :
    Gives (noteComparison oldRoot newRoot outcome) (outcome.mapError .duplicatePath) :=
  (gives_orFail _ _).keep fun changes => (gives_note _).andThen (gives_pure changes)

/-- The changes within the tree that a rule selects. -/
def selectedDiff : Except Failure TreeDiff :=
  ((selectTree rule old new).mapError .selection).bind fun selection =>
    (treeAt old .old selection.name).bind fun oldRoot =>
      (treeAt new .new selection.name).bind fun newRoot =>
        ((compareTrees options oldRoot newRoot).mapError .duplicatePath).bind fun changes =>
          .ok ⟨selection.name, changes⟩

variable {options rule old new} in
theorem selectedDiff_eq_ok_iff {diff : TreeDiff} :
    selectedDiff options rule old new = .ok diff ↔
      ∃ selection oldRoot newRoot changes, selectTree rule old new = .ok selection ∧
        old.get? selection.name = some oldRoot ∧ new.get? selection.name = some newRoot ∧
        compareTrees options oldRoot newRoot = .ok changes ∧ ⟨selection.name, changes⟩ = diff := by
  have found (document : Document) (side : Side) (name : String) (root : Node) :
      treeAt document side name = .ok root ↔ document.get? name = some root := by
    rw [treeAt]
    cases document.get? name <;> simp
  simp [selectedDiff, bind_eq_ok_iff, mapError_eq_ok_iff, found]

theorem gives_compareSelected :
    Gives (compareSelected options rule old new) (selectedDiff options rule old new) := by
  refine (gives_chooseTree rule old new).bind fun selection => ?_
  refine (gives_requireTree old .old selection.name).bind fun oldRoot => ?_
  refine (gives_requireTree new .new selection.name).bind fun newRoot => ?_
  exact (gives_noteComparison oldRoot newRoot _).bind fun changes => gives_pure _

/-- The walk over the shared trees stops where the list of their changes ends. -/
theorem forM_outcomes (shared : List SharedTree) :
    (shared.forM fun tree => (tree.outcome.mapError Failure.duplicatePath).bind fun _ => .ok ()) =
      ((treeDiffs shared).mapError Failure.duplicatePath).bind fun _ => .ok () := by
  induction shared with
  | nil => rfl
  | cons tree rest ih =>
    have listed : treeDiffs (tree :: rest) = tree.outcome.bind fun changes =>
        (treeDiffs rest).bind fun diffs => .ok (⟨tree.name, changes⟩ :: diffs) := by
      rw [treeDiffs, List.mapM_cons]
      cases tree.outcome <;> rfl
    rw [List.forM_eq_forM] at ih ⊢
    rw [List.forM_cons, ih, listed]
    cases tree.outcome with
    | error error => rfl
    | ok changes => cases treeDiffs rest <;> rfl

theorem gives_compareAll :
    Gives (compareAll options old new)
      ((compareDocuments options old new).mapError .duplicatePath) := by
  have walk : Gives ((sharedTrees options old new).forM fun tree => do
      let _ ← noteComparison tree.old tree.new tree.outcome) _ :=
    gives_forM fun tree _ =>
      (gives_noteComparison tree.old tree.new tree.outcome).bind fun _ => gives_pure ()
  have compared : Gives (compareAll options old new) _ :=
    walk.bind fun _ => (gives_orFail .duplicatePath (compareDocuments options old new)).keep
      fun diff => (gives_note _).andThen (gives_pure diff)
  rw [forM_outcomes] at compared
  rw [compareDocuments] at compared ⊢
  cases walked : treeDiffs (sharedTrees options old new) <;> rw [walked] at compared <;>
    exact compared

end Comparisons

section Commands
variable (files : Files) (now : Timestamp) (request : CompareRequest) (preferences : Preferences)

/-- The report on the comparison that is asked for, or why it fails. -/
def reported : Except Failure Report :=
  (documentAt files request.old).bind fun old =>
    (documentAt files request.new).bind fun new =>
      (preferences.compareOptions.mapError .preferences).bind fun options =>
        if request.all then
          ((compareDocuments options old new).mapError .duplicatePath).map fun diff =>
            Report.ofDocuments ⟨request.old, request.new⟩ now diff
              (request.showUnchanged || preferences.showUnchanged)
        else
          (selectedDiff options (selectionRule request preferences) old new).map fun diff =>
            Report.ofTree ⟨request.old, request.new⟩ now diff
              (request.showUnchanged || preferences.showUnchanged)

/-- The comparison that a report is the outcome of. -/
def comparisonOf (report : Report) : Comparison :=
  ⟨render report (request.format.getD preferences.outputFormat), report.hasChanges⟩

theorem gives_runCompare :
    Gives (runCompare files now request preferences)
      ((reported files now request preferences).map (comparisonOf request preferences)) := by
  simp only [runCompare, reported, map_bind_except]
  refine (gives_readDocument files request.old).bind fun old => ?_
  refine (gives_readDocument files request.new).bind fun new => ?_
  refine (gives_orFail .preferences preferences.compareOptions).bind fun options => ?_
  cases request.all with
  | true =>
    exact ((gives_compareAll options old new).map _).map (comparisonOf request preferences)
  | false =>
    exact ((gives_compareSelected options _ old new).map _).map (comparisonOf request preferences)

/-- The tree that is drawn, or why there is none. -/
def shownTree (path : String) (tree : Option String) (document : Document) :
    Except Failure (String × Node) :=
  match tree with
  | some name =>
    (document.get? name).elim (.error (.treeNotFound name)) fun root => .ok (name, root)
  | none => (document.default? preferences.defaultTree).elim (.error (.noTree path)) .ok

/-- The outline of a tree of a file, or why there is none. -/
def outlineAt (path : String) (tree : Option String) : Except Failure String :=
  ((documentAt files path).bind (shownTree preferences path tree)).map fun (name, root) =>
    "\n".intercalate (("Tree: " ++ name) :: Outline.lines root)

theorem gives_outline (path : String) (tree : Option String) :
    Gives (outline files path tree preferences) (outlineAt files preferences path tree) := by
  simp only [outline, outlineAt, map_bind_except]
  refine (gives_readDocument files path).bind fun document => ?_
  cases tree with
  | some name =>
    simp only [shownTree]
    cases document.get? name with
    | none => exact gives_throw _
    | some root => exact gives_pure _
  | none =>
    simp only [shownTree]
    cases document.default? preferences.defaultTree with
    | none => exact gives_throw _
    | some shown => exact gives_pure _

/-- The statistics of a file, or why there are none. -/
def statisticsAt (path : String) : Except Failure String :=
  (documentAt files path).map fun document =>
    "File: " ++ path ++ "\n" ++ (DocumentStats.of document).text

theorem gives_statistics (path : String) :
    Gives (statistics files path) (statisticsAt files path) :=
  (gives_readDocument files path).map _

end Commands

end BehaviorDiff.Run
