import BehaviorDiff.Proofs.Command.Failures
import BehaviorDiff.Proofs.Command.Verdict

set_option autoImplicit false

/-!
What a command writes. All that can fail is done before anything is written, so a command that fails
has written nothing, and one that succeeds has written the one text that it is about.
-/

namespace BehaviorDiff

namespace Session

/-- From any console the session ends like this and writes these texts behind the earlier ones. -/
def Ends {α : Type} (session : Session α) (outcome : Except Failure α) (texts : List String) :
    Prop :=
  ∀ console : Console, (session.run.run console).1 = outcome ∧
    (session.run.run console).2.written = console.written ++ texts

section Ends
variable {α β : Type}

theorem ends_pure (value : α) : Ends (pure value) (.ok value) [] :=
  fun console => ⟨rfl, (List.append_nil console.written).symm⟩

theorem ends_print (text : String) : Ends (print text) (.ok ()) [text] := fun _ => ⟨rfl, rfl⟩

/-- A step writes nothing, whatever it gives. -/
theorem ends_quietly {step : Run α} {outcome : Except Failure α} (gives : Run.Gives step outcome) :
    Ends (quietly step) outcome [] :=
  fun console => ⟨gives console.journal, (List.append_nil console.written).symm⟩

/-- What comes behind a failure is not done. -/
theorem Ends.bind_error {session : Session α} {failure : Failure} {texts : List String}
    (first : Ends session (.error failure) texts) (next : α → Session β) :
    Ends (session >>= next) (.error failure) texts := by
  intro console
  obtain ⟨ended, wrote⟩ := first console
  rw [ExceptT.run_bind, StateT.run_bind]
  cases ran : session.run.run console with
  | mk result after =>
    rw [ran] at ended wrote
    cases ended
    exact ⟨rfl, wrote⟩

theorem Ends.bind_ok {session : Session α} {next : α → Session β} {value : α}
    {outcome : Except Failure β} {texts later : List String}
    (first : Ends session (.ok value) texts) (rest : Ends (next value) outcome later) :
    Ends (session >>= next) outcome (texts ++ later) := by
  intro console
  obtain ⟨ended, wrote⟩ := first console
  rw [ExceptT.run_bind, StateT.run_bind]
  cases ran : session.run.run console with
  | mk result after =>
    rw [ran] at ended wrote
    cases ended
    obtain ⟨endedLater, wroteLater⟩ := rest after
    refine ⟨endedLater, ?_⟩
    rw [← List.append_assoc, ← wrote]
    exact wroteLater

/-- The texts that are written for an outcome: its own text, or none. -/
def textsOf : Except Failure Outcome → List String
  | .ok outcome => [outcome.text]
  | .error _ => []

/-- From any console the session ends with this outcome, and writes its text if it has one. -/
def Answers (session : Session ExitCode) (answer : Except Failure Outcome) : Prop :=
  Ends session (answer.map Outcome.exitCode) (textsOf answer)

theorem answers_print (text : String) (exitCode : ExitCode) :
    Answers (do print text; return exitCode) (.ok ⟨text, exitCode⟩) :=
  (ends_print text).bind_ok (ends_pure exitCode)

theorem Answers.of_quietly {step : Run α} {next : α → Session ExitCode}
    {outcome : Except Failure α} {later : α → Except Failure Outcome}
    (gives : Run.Gives step outcome) (rest : ∀ value, Answers (next value) (later value)) :
    Answers (quietly step >>= next) (outcome.bind later) := by
  have first := ends_quietly gives
  cases outcome with
  | error failure => exact first.bind_error next
  | ok value => exact first.bind_ok (rest value)

/-- A step whose text is written once it has succeeded. -/
theorem answers_written {step : Run α} {outcome : Except Failure α}
    (gives : Run.Gives step outcome) (text : α → String) (exitCode : α → ExitCode) :
    Answers (do let value ← quietly step; print (text value); return exitCode value)
      (outcome.map fun value => ⟨text value, exitCode value⟩) := by
  have described : (outcome.map fun value => Outcome.mk (text value) (exitCode value)) =
      outcome.bind fun value => .ok ⟨text value, exitCode value⟩ := by
    cases outcome <;> rfl
  rw [described]
  exact .of_quietly gives fun value => answers_print (text value) (exitCode value)

end Ends

end Session

section Outcomes
variable (files : Files) (now : Timestamp)

/-- What a comparison has to say. -/
def CompareRequest.outcomeOf (request : CompareRequest) (comparison : Comparison) : Outcome :=
  ⟨comparison.rendered, Run.codeOf request comparison.hasChanges⟩

/-- What a command has to say under some preferences, or why it fails. -/
def Command.outcome (preferences : Preferences) : Command → Except Failure Outcome
  | .compare request =>
    ((Run.reported files now request preferences).map
      (Run.comparisonOf request preferences)).map request.outcomeOf
  | .outline path tree =>
    (Run.outlineAt files preferences path tree).map fun text => ⟨text, .success⟩
  | .stats path => (Run.statisticsAt files path).map fun text => ⟨text, .success⟩

/-- What is said to a command line, or why it fails. -/
def Invocation.outcome (invocation : Invocation) : Except Failure Outcome :=
  (Run.foundPreferences files invocation.preferences).bind fun preferences =>
    invocation.command.outcome files now preferences

theorem Run.gives_compare (request : CompareRequest) (preferences : Preferences) :
    Gives (compare files now request preferences)
      ((Command.compare request).outcome files now preferences) :=
  (gives_runCompare files now request preferences).map request.outcomeOf

/-- A command line ends with its outcome, and the text of the outcome is all that is written. -/
theorem Invocation.answers_run (invocation : Invocation) :
    (invocation.run files now).Answers (invocation.outcome files now) := by
  refine .of_quietly (Run.gives_findPreferences files _) fun preferences => ?_
  cases invocation.command with
  | compare request =>
    have answers := Session.answers_written (Run.gives_compare files now request preferences)
      Outcome.text Outcome.exitCode
    -- An outcome is nothing but its text and its exit code.
    change Session.Answers _ (Except.map id _) at answers
    rwa [Except.map_id] at answers
  | outline path tree =>
    exact Session.answers_written (Run.gives_outline files preferences path tree) id
      fun _ => .success
  | stats path =>
    exact Session.answers_written (Run.gives_statistics files path) id fun _ => .success

theorem Invocation.execute_fst (invocation : Invocation) :
    (invocation.execute files now).1 = invocation.outcome files now := by
  obtain ⟨ended, wrote⟩ := invocation.answers_run files now ⟨[], []⟩
  change ((invocation.run files now).run.run ⟨[], []⟩).1.map (fun exitCode => Outcome.mk
    ("\n".intercalate ((invocation.run files now).run.run ⟨[], []⟩).2.written) exitCode) = _
  rw [ended, wrote]
  cases invocation.outcome files now <;> rfl

/-- The output holds the texts that were written, each with the end of its line. -/
theorem Invocation.standardOutput_execute (invocation : Invocation) :
    standardOutput (invocation.execute files now).1 = String.join
      (((invocation.run files now).run.run ⟨[], []⟩).2.written.map fun text => text ++ "\n") := by
  obtain ⟨-, wrote⟩ := invocation.answers_run files now ⟨[], []⟩
  rw [invocation.execute_fst, wrote]
  cases invocation.outcome files now with
  | error failure => rfl
  | ok outcome => simp [standardOutput, Session.textsOf, String.join]

end Outcomes

/-- Preferences that have been found have options, and a tree that has been chosen is in both
documents. So when the preferences are found and both files are read, a comparison fails only
because no tree can be chosen or because one that is compared has a path twice. A command that fails
has written nothing, and one that succeeds has written exactly one text, that of its outcome. -/
theorem commands_fail_unwritten (files : Files) (now : Timestamp) :
    (∀ named journal preferences,
      (Run.findPreferences files named).result journal = .ok preferences →
        ∃ options, preferences.compareOptions = .ok options) ∧
    (∀ rule old new selection, selectTree rule old new = .ok selection →
      old.contains selection.name = true ∧ new.contains selection.name = true) ∧
    (∀ named request preferences old new failure, ∀ atFirst atOld atNew atLast : Journal,
      (Run.findPreferences files named).result atFirst = .ok preferences →
      (Run.readDocument files request.old).result atOld = .ok old →
      (Run.readDocument files request.new).result atNew = .ok new →
      (Run.runCompare files now request preferences).result atLast = .error failure →
        (failure.exitCode.number = 1 ∧ request.all = false ∧ ∃ error,
          selectTree (Run.selectionRule request preferences) old new = .error error ∧
            failure = .selection error) ∨
        (failure.exitCode.number = 3 ∧ ∃ name oldRoot newRoot error,
          Run.Compares request preferences old new name oldRoot newRoot ∧
            (error.side = .old ∧ oldRoot.FirstRepeats error.path ∨
              error.side = .new ∧ newRoot.FirstRepeats error.path) ∧
              failure = .duplicatePath error)) ∧
    (∀ (invocation : Invocation) (console after : Console) (ended : Except Failure ExitCode),
      (invocation.run files now).run.run console = (ended, after) →
        (∀ failure, ended = .error failure → after.written = console.written) ∧
        ∀ exitCode, ended = .ok exitCode → ∃ outcome,
          invocation.outcome files now = .ok outcome ∧ outcome.exitCode = exitCode ∧
            after.written = console.written ++ [outcome.text]) ∧
    ∀ invocation : Invocation, standardOutput (invocation.execute files now).1 = String.join
      (((invocation.run files now).run.run ⟨[], []⟩).2.written.map fun text => text ++ "\n") := by
  refine ⟨?_, ?_, ?_, ?_, Invocation.standardOutput_execute files now⟩
  · intro named journal preferences found
    rw [Run.gives_findPreferences files named journal] at found
    exact (Run.usable_of_foundPreferences found).exists_options
  · intro rule old new selection chosen
    obtain ⟨oldRoot, newRoot, ho, hn⟩ := exists_roots_of_selectTree chosen
    exact ⟨Option.isSome_iff_exists.2 ⟨oldRoot, ho⟩, Option.isSome_iff_exists.2 ⟨newRoot, hn⟩⟩
  · intro named request preferences old new failure atFirst atOld atNew atLast found oldRead newRead
      failed
    rw [Run.gives_findPreferences files named atFirst] at found
    rw [Run.gives_readDocument files request.old atOld] at oldRead
    rw [Run.gives_readDocument files request.new atNew] at newRead
    rw [Run.gives_runCompare files now request preferences atLast, map_eq_error_iff] at failed
    have usable := Run.usable_of_foundPreferences found
    cases Run.failsWith_of_reported usable oldRead newRead failed with
    | selection single refused => exact .inl ⟨rfl, single, _, refused, rfl⟩
    | duplicatePath compares blamed => exact .inr ⟨rfl, _, _, _, _, compares, blamed, rfl⟩
  · intro invocation console after ended ran
    obtain ⟨endsSo, wrote⟩ := invocation.answers_run files now console
    rw [ran] at endsSo wrote
    subst endsSo
    constructor
    · intro failure failed
      rw [map_eq_error_iff.1 failed] at wrote
      exact wrote.trans (List.append_nil console.written)
    · intro exitCode succeeded
      obtain ⟨outcome, said, code⟩ := Run.map_eq_ok_iff.1 succeeded
      rw [said] at wrote
      exact ⟨outcome, said, code, wrote⟩

/-- The files of the door without any preferences. -/
def doorFolder : Files where
  entry path := if path = Run.preferencesFile then .missing else Run.doorFiles.entry path

theorem documentAt_doorFolder {path : String} (apart : path ≠ Run.preferencesFile) :
    Run.documentAt doorFolder path = .ok (Markup.documentOf
      (Run.doorForest (if path = "old.xml" then "Open" else "Close"))) := by
  have same : doorFolder.read path = Run.doorFiles.read path := by
    simp only [Files.read, doorFolder, if_neg apart]
  rw [Run.documentAt, same]
  exact Run.documentAt_doorFiles path

/-- A comparison of a tree that is not there. -/
def windowRequest : CompareRequest := { Run.doorRequest with tree := some "Window" }

theorem verdict_windowRequest :
    Run.verdict doorFolder windowRequest .default =
      .error (.selection (.notFound "Window" .new)) := by
  rw [Run.verdict, documentAt_doorFolder (by decide), documentAt_doorFolder (by decide)]
  decide +kernel

theorem verdict_doorFolder : Run.verdict doorFolder Run.doorRequest .default = .ok true := by
  rw [Run.verdict, documentAt_doorFolder (by decide), documentAt_doorFolder (by decide)]
  decide +kernel

theorem commands_fail_unwritten_door :
    (∃ failure, (Run.runCompare doorFolder .epoch windowRequest .default).result [] =
        .error failure ∧ failure.exitCode.number = 1) ∧
      ∃ ended after text,
        (Invocation.run ⟨.compare Run.doorRequest, none, 0⟩ doorFolder .epoch).run.run ⟨[], []⟩ =
            (ended, after) ∧ ended = .ok .changesDetected ∧ after.written = [text] := by
  obtain ⟨-, -, fails, writes, -⟩ := commands_fail_unwritten doorFolder .epoch
  have found : Run.foundPreferences doorFolder none = .ok .default := by decide
  constructor
  · have failed := Run.gives_hasChanges doorFolder .epoch windowRequest .default []
    rw [verdict_windowRequest, Run.result_map, map_eq_error_iff] at failed
    refine ⟨_, failed, ?_⟩
    have read {path : String} (apart : path ≠ Run.preferencesFile) :=
      (Run.gives_readDocument doorFolder path []).trans (documentAt_doorFolder apart)
    rcases fails none windowRequest .default _ _ _ [] [] [] []
      ((Run.gives_findPreferences doorFolder none []).trans found) (read (by decide))
      (read (by decide)) failed with ⟨code, -⟩ | ⟨-, _, _, _, _, -, -, other⟩
    · exact code
    · cases other
  · have code := Run.gives_exitCode doorFolder .epoch Run.doorRequest .default []
    rw [Run.result_map, Run.gives_compare, verdict_doorFolder] at code
    obtain ⟨ended, -⟩ := Invocation.answers_run doorFolder .epoch
      ⟨.compare Run.doorRequest, none, 0⟩ ⟨[], []⟩
    rw [Invocation.outcome, found, Except.bind, code] at ended
    obtain ⟨outcome, -, -, wrote⟩ := (writes ⟨.compare Run.doorRequest, none, 0⟩ ⟨[], []⟩ _ _
      Prod.mk.eta.symm).2 .changesDetected ended
    exact ⟨_, _, outcome.text, Prod.mk.eta.symm, ended, wrote⟩

end BehaviorDiff
