import BehaviorDiff.Proofs.Command.Steps
import BehaviorDiff.Proofs.Diff.Rejection
import BehaviorDiff.Proofs.Selection.Optimum

set_option autoImplicit false

/-!
Which failures a comparison can come to. Whatever may go wrong with the preferences goes wrong when
they are looked for, and a chosen tree is in both documents. So when the preferences are found and
the documents are read, either no tree can be chosen or a compared one has a path twice.
-/

namespace BehaviorDiff

namespace Preferences

/-- Preferences are usable if the default tree has a name and every pattern can be read. -/
structure Usable (preferences : Preferences) : Prop where
  named : isBlank preferences.defaultTree = false
  readable : ∀ pattern ∈ preferences.ignoredAttributes,
    ∃ matcher, Pattern.Matcher.ofPattern pattern = .ok matcher

theorem validate_eq_ok_iff {preferences : Preferences} :
    preferences.validate = .ok () ↔ preferences.Usable := by
  rw [validate]
  cases blank : isBlank preferences.defaultTree with
  | true =>
    constructor
    · intro h
      cases h
    · intro usable
      cases blank.symm.trans usable.named
  | false =>
    refine Run.forM_eq_ok_iff.trans ((forall₂_congr fun pattern _ => ?_).trans
      ⟨fun readable => ⟨blank, readable⟩, Usable.readable⟩)
    cases Pattern.Matcher.ofPattern pattern <;> simp [pure, Except.pure, throw, throwThe,
      MonadExceptOf.throw]

theorem usable_default : default.Usable :=
  ⟨by decide, fun _ hm => absurd hm List.not_mem_nil⟩

theorem usable_of_ofYaml {text : String} {preferences : Preferences}
    (h : ofYaml text = .ok preferences) : preferences.Usable := by
  rw [ofYaml] at h
  split at h
  · cases h
    exact usable_default
  · obtain ⟨fields, -, rest⟩ := Run.bind_eq_ok_iff.1 h
    obtain ⟨⟨⟩, valid, same⟩ := Run.bind_eq_ok_iff.1 rest
    cases same
    exact validate_eq_ok_iff.1 valid

/-- Usable preferences have options. -/
theorem Usable.exists_options {preferences : Preferences} (usable : preferences.Usable) :
    ∃ options, preferences.compareOptions = .ok options := by
  rw [compareOptions, CompareOptions.ignoring]
  cases read : preferences.ignoredAttributes.mapM Pattern.Matcher.ofPattern with
  | ok matchers => exact ⟨_, rfl⟩
  | error error =>
    obtain ⟨before, pattern, after, split, unread, -⟩ := mapM_eq_error_iff.1 read
    obtain ⟨matcher, readable⟩ := usable.readable pattern (by simp [split])
    cases unread.symm.trans readable

end Preferences

/-- A chosen tree is in both documents, whether it was asked for or had the most points. -/
theorem exists_roots_of_selectTree {rule : SelectionRule} {old new : Document}
    {selection : Selection} (chosen : selectTree rule old new = .ok selection) :
    ∃ oldRoot newRoot, old.get? selection.name = some oldRoot ∧
      new.get? selection.name = some newRoot := by
  obtain ⟨explicit, hints, defaultTree⟩ := rule
  cases explicit with
  | none =>
    obtain ⟨known, newRoot, found, -⟩ := (selectTree_eq_ok_iff.1 chosen).candidate
    obtain ⟨oldRoot, known⟩ := Option.isSome_iff_exists.1 known
    exact ⟨oldRoot, newRoot, known, found⟩
  | some name =>
    rw [selectTree] at chosen
    cases hn : new.get? name with
    | none => simp [hn] at chosen
    | some newRoot =>
      cases ho : old.get? name with
      | none => simp [hn, ho] at chosen
      | some oldRoot =>
        simp only [hn, ho, Except.ok.injEq] at chosen
        subst chosen
        exact ⟨oldRoot, newRoot, ho, hn⟩

namespace Run

theorem usable_of_foundPreferences {files : Files} {named : Option String}
    {preferences : Preferences} (found : foundPreferences files named = .ok preferences) :
    preferences.Usable := by
  -- A file that is named and the usual file are read alike.
  have read {path : String} (h : preferencesAt files path = .ok preferences) :
      preferences.Usable := by
    obtain ⟨text, -, decoded⟩ := bind_eq_ok_iff.1 h
    exact Preferences.usable_of_ofYaml (mapError_eq_ok_iff.1 decoded)
  cases named with
  | some path => exact read found
  | none =>
    rw [foundPreferences] at found
    split at found
    · exact read found
    · cases found
      exact Preferences.usable_default

/-- A tree that a request compares: the chosen one, or any that both documents define. -/
structure Compares (request : CompareRequest) (preferences : Preferences) (old new : Document)
    (name : String) (oldRoot newRoot : Node) : Prop where
  inOld : old.get? name = some oldRoot
  inNew : new.get? name = some newRoot
  chosen : request.all = false →
    ∃ score, selectTree (selectionRule request preferences) old new = .ok ⟨name, score⟩

/-- How a comparison of two documents fails: no tree can be chosen, or one that is compared has a
path twice, which is blamed. -/
inductive FailsWith (request : CompareRequest) (preferences : Preferences) (old new : Document) :
    Failure → Prop
  | selection {error : SelectionError} : request.all = false →
      selectTree (selectionRule request preferences) old new = .error error →
        FailsWith request preferences old new (.selection error)
  | duplicatePath {name : String} {oldRoot newRoot : Node} {error : DuplicatePath} :
      Compares request preferences old new name oldRoot newRoot →
        (error.side = .old ∧ oldRoot.FirstRepeats error.path ∨
          error.side = .new ∧ newRoot.FirstRepeats error.path) →
            FailsWith request preferences old new (.duplicatePath error)

section Failing
variable {request : CompareRequest} {preferences : Preferences} {options : CompareOptions}
  {old new : Document} {failure : Failure}

theorem FailsWith.of_compareTrees {name : String} {oldRoot newRoot : Node} {error : DuplicatePath}
    (compares : Compares request preferences old new name oldRoot newRoot)
    (failed : compareTrees options oldRoot newRoot = .error error) :
    FailsWith request preferences old new (.duplicatePath error) := by
  refine .duplicatePath compares ?_
  rcases compareTrees_eq_error_iff.1 failed with blamed | ⟨-, blamed⟩
  · exact .inl blamed
  · exact .inr blamed

theorem failsWith_of_selectedDiff (single : request.all = false)
    (failed : selectedDiff options (selectionRule request preferences) old new = .error failure) :
    FailsWith request preferences old new failure := by
  rcases bind_eq_error_iff.1 failed with unchosen | ⟨⟨name, score⟩, selected, later⟩
  · obtain ⟨error, refused, rfl⟩ := mapError_eq_error_iff.1 unchosen
    exact .selection single refused
  · have chosen := mapError_eq_ok_iff.1 selected
    obtain ⟨oldRoot, newRoot, ho, hn⟩ := exists_roots_of_selectTree chosen
    simp only [treeAt, ho, hn, Option.elim_some] at later
    change ((compareTrees options oldRoot newRoot).mapError Failure.duplicatePath).bind _ =
      Except.error failure at later
    rcases bind_eq_error_iff.1 later with uncompared | ⟨changes, -, impossible⟩
    · obtain ⟨error, blamed, rfl⟩ := mapError_eq_error_iff.1 uncompared
      exact .of_compareTrees ⟨ho, hn, fun _ => ⟨score, chosen⟩⟩ blamed
    · cases impossible

theorem failsWith_of_compareDocuments (all : request.all = true) {error : DuplicatePath}
    (failed : compareDocuments options old new = .error error) :
    FailsWith request preferences old new (.duplicatePath error) := by
  obtain ⟨before, ⟨name, oldRoot⟩, after, newRoot, split, hn, failed, -⟩ :=
    compareDocuments_eq_error_iff.1 failed
  have ho : old.get? name = some oldRoot := Document.mem_definitions_iff.1 (by simp [split])
  refine .of_compareTrees ⟨ho, hn, fun single => ?_⟩ failed
  cases all.symm.trans single

/-- With usable preferences and documents that are read, only the comparison itself can fail. -/
theorem failsWith_of_reported {files : Files} {now : Timestamp} (usable : preferences.Usable)
    (oldRead : documentAt files request.old = .ok old)
    (newRead : documentAt files request.new = .ok new)
    (failed : reported files now request preferences = .error failure) :
    FailsWith request preferences old new failure := by
  obtain ⟨options, compiled⟩ := usable.exists_options
  rw [reported, oldRead, newRead, compiled] at failed
  change (if request.all then _ else _) = Except.error failure at failed
  split at failed
  · next all =>
    obtain ⟨error, uncompared, rfl⟩ := mapError_eq_error_iff.1 (map_eq_error_iff.1 failed)
    exact failsWith_of_compareDocuments all uncompared
  · next single =>
    exact failsWith_of_selectedDiff (Bool.eq_false_iff.2 single) (map_eq_error_iff.1 failed)

end Failing

end Run

end BehaviorDiff
