import BehaviorDiff.Command.Failure
import BehaviorDiff.Command.Journal
import BehaviorDiff.CommandLine.Invocation
import BehaviorDiff.Diff.Documents
import BehaviorDiff.Report.Json
import BehaviorDiff.Report.Text
import BehaviorDiff.Tree.Outline
import BehaviorDiff.Tree.Stats

set_option autoImplicit false

/-!
The commands as functions of the files. The steps of a command give a result or fail, and write
nothing; the command writes what they give. What has been noted and written is kept in both cases.
-/

namespace BehaviorDiff

/-- A step of a command. -/
abbrev Run := ExceptT Failure (StateM Journal)

/-- What a command has to say, and how it ends. -/
structure Outcome where
  text : String
  exitCode : ExitCode
  deriving DecidableEq

/-- The result of a comparison. -/
structure Comparison where
  rendered : String
  hasChanges : Bool
  deriving DecidableEq

namespace Run

/-- Adds an entry to the journal. -/
def note (entry : JournalEntry) : Run Unit := modify (· ++ [entry])

/-- The result of a step, or a failure. -/
def orFail {ε α : Type} (failure : ε → Failure) : Except ε α → Run α
  | .ok value => return value
  | .error error => throw (failure error)

/-- The file that holds the preferences if no other is named. -/
def preferencesFile : String := ".btdiff.yaml"

/-- The preferences in a file. -/
def loadPreferences (files : Files) (path : String) : Run Preferences := do
  let text ← orFail (.unreadablePreferences path) (files.read path)
  let preferences ← orFail .preferences (Preferences.ofYaml text)
  note (.loadedPreferences path)
  return preferences

/-- The preferences that hold: those in the file that is named, or in the usual file if there is
one. -/
def findPreferences (files : Files) : Option String → Run Preferences
  | some path => loadPreferences files path
  | none => do
    if files.isFile preferencesFile then loadPreferences files preferencesFile
    else
      note .usedDefaults
      return .default

/-- The document in a file. -/
def readDocument (files : Files) (path : String) : Run Document := do
  let text ← orFail (.unreadableDocument path) (files.read path)
  let definitions ← orFail (.malformedDocument (some path)) (Markup.definitionsOf text)
  (Document.repeatedNames definitions).forM fun name => note (.repeatedTree name)
  let document := Document.ofList definitions
  note (.readDocument path document.size)
  return document

/-- Chooses the tree to compare. -/
def chooseTree (rule : SelectionRule) (old new : Document) : Run Selection := do
  if rule.explicit.isNone then
    (selectionCandidates rule old new).forM fun candidate => note (.scoredTree candidate)
  let selection ← orFail .selection (selectTree rule old new)
  if rule.explicit.isNone then note (.selectedTree selection)
  return selection

/-- The tree of a name in one of two documents. -/
def requireTree (document : Document) (side : Side) (name : String) : Run Node :=
  match document.get? name with
  | some root => return root
  | none => throw (.selection (.notFound name side))

/-- Notes a comparison, or fails. -/
def noteComparison (old new : Node) (outcome : Except DuplicatePath (List Change)) :
    Run (List Change) := do
  let changes ← orFail .duplicatePath outcome
  note (.comparedTrees old.nodes.length new.nodes.length
    (changes.filter Change.isChange).length)
  return changes

/-- Compares the tree of one name in two documents. -/
def compareSelected (options : CompareOptions) (rule : SelectionRule) (old new : Document) :
    Run TreeDiff := do
  let selection ← chooseTree rule old new
  let oldRoot ← requireTree old .old selection.name
  let newRoot ← requireTree new .new selection.name
  let changes ← noteComparison oldRoot newRoot (compareTrees options oldRoot newRoot)
  return ⟨selection.name, changes⟩

/-- Compares all trees of two documents. -/
def compareAll (options : CompareOptions) (old new : Document) : Run DocumentDiff := do
  (sharedTrees options old new).forM fun tree => do
    let _ ← noteComparison tree.old tree.new tree.outcome
  let diff ← orFail .duplicatePath (compareDocuments options old new)
  note (.comparedDocuments diff.trees.length (diff.trees.filter TreeDiff.hasChanges).length
    diff.addedTrees.length diff.removedTrees.length)
  return diff

/-- The rule by which a tree is chosen; hints from the preferences come first. -/
def selectionRule (request : CompareRequest) (preferences : Preferences) : SelectionRule :=
  ⟨request.tree, preferences.hints ++ request.hints, preferences.defaultTree⟩

/-- The text of a report. -/
def render (report : Report) : OutputFormat → String
  | .text => report.text
  | .json => report.jsonText

/-- Reads two files, compares them and writes the report. -/
def runCompare (files : Files) (now : Timestamp) (request : CompareRequest)
    (preferences : Preferences) : Run Comparison := do
  let old ← readDocument files request.old
  let new ← readDocument files request.new
  let options ← orFail .preferences preferences.compareOptions
  let showUnchanged := request.showUnchanged || preferences.showUnchanged
  let sources : Sources := ⟨request.old, request.new⟩
  let report ← (do
    if request.all then
      return Report.ofDocuments sources now (← compareAll options old new) showUnchanged
    else
      let rule := selectionRule request preferences
      return Report.ofTree sources now (← compareSelected options rule old new) showUnchanged)
  return ⟨render report (request.format.getD preferences.outputFormat), report.hasChanges⟩

/-- The comparison as a command. Differences have an exit code of their own on request. -/
def compare (files : Files) (now : Timestamp) (request : CompareRequest)
    (preferences : Preferences) : Run Outcome := do
  let comparison ← runCompare files now request preferences
  let exitCode := if request.exitCode && comparison.hasChanges then .changesDetected else .success
  return ⟨comparison.rendered, exitCode⟩

/-- The outline of a tree: the one that is asked for, else the default one, else the first. -/
def outline (files : Files) (path : String) (tree : Option String) (preferences : Preferences) :
    Run String := do
  let document ← readDocument files path
  let (name, root) ← (match tree with
    | some name =>
      match document.get? name with
      | some root => pure (name, root)
      | none => throw (.treeNotFound name)
    | none =>
      match document.default? preferences.defaultTree with
      | some found => pure found
      | none => throw (.noTree path))
  return "\n".intercalate (("Tree: " ++ name) :: Outline.lines root)

/-- The statistics of a file. -/
def statistics (files : Files) (path : String) : Run String := do
  let document ← readDocument files path
  return "File: " ++ path ++ "\n" ++ (DocumentStats.of document).text

end Run

/-- The files that a command may read. -/
def Command.paths : Command → List String
  | .compare request => [request.old, request.new]
  | .outline path _ | .stats path => [path]

/-- The files that may be read for a command line. -/
def Invocation.paths (invocation : Invocation) : List String :=
  invocation.preferences.getD Run.preferencesFile :: invocation.command.paths

/-- Where a command notes and writes. -/
structure Console where
  journal : Journal
  written : List String

/-- A command that is being done. -/
abbrev Session := ExceptT Failure (StateM Console)

namespace Session

/-- Does a step, which adds to the journal and writes nothing. -/
def quietly {α : Type} (step : Run α) : Session α := ExceptT.mk fun console =>
  let (outcome, journal) := step.run.run console.journal
  (outcome, { console with journal })

/-- Writes a text. -/
def print (text : String) : Session Unit :=
  modify fun console => { console with written := console.written ++ [text] }

end Session

open Session in
/-- Does what a command line asks for. -/
def Invocation.run (invocation : Invocation) (files : Files) (now : Timestamp) :
    Session ExitCode := do
  let preferences ← quietly (Run.findPreferences files invocation.preferences)
  match invocation.command with
  | .compare request =>
    let outcome ← quietly (Run.compare files now request preferences)
    print outcome.text
    return outcome.exitCode
  | .outline path tree =>
    print (← quietly (Run.outline files path tree preferences))
    return .success
  | .stats path =>
    print (← quietly (Run.statistics files path))
    return .success

/-- The result of a command with all that it has written, and its journal. -/
def Invocation.execute (invocation : Invocation) (files : Files) (now : Timestamp) :
    Except Failure Outcome × Journal :=
  let (ended, console) := (invocation.run files now).run.run ⟨[], []⟩
  (ended.map fun exitCode => ⟨"\n".intercalate console.written, exitCode⟩, console.journal)

/-- What a command writes to its output: its text with the end of the last line, or nothing. -/
def standardOutput : Except Failure Outcome → String
  | .ok outcome => outcome.text ++ "\n"
  | .error _ => ""

end BehaviorDiff
