import BehaviorDiff.Diff.Ignoring
import BehaviorDiff.Tree.Document
import BehaviorDiff.Yaml.Document
import BehaviorDiff.Yaml.Printer

set_option autoImplicit false

/-!
Preferences: what holds where the command line says nothing else. They are kept in a YAML file;
a field that is missing has its default, and unknown fields do not count.
-/

namespace BehaviorDiff

/-- How a report is written. -/
inductive OutputFormat where
  | text
  | json
  deriving DecidableEq, Repr

/-- The output formats by their names. -/
def OutputFormat.names : List (String × OutputFormat) := [("text", .text), ("json", .json)]

/-- The name of an output format. -/
def OutputFormat.label : OutputFormat → String
  | text => "text"
  | json => "json"

/-- What holds where the command line says nothing else. -/
structure Preferences where
  defaultTree : String
  hints : List String
  ignoredAttributes : List String
  outputFormat : OutputFormat
  showUnchanged : Bool
  deriving DecidableEq, Repr

/-- Why preferences cannot be used. -/
inductive PreferencesError where
  | malformed (error : Yaml.DecodeError)
  | blankDefaultTree
  | badPattern (pattern : String) (error : Pattern.PatternError)
  | badOptions (error : Pattern.PatternError)
  deriving DecidableEq, Repr

/-- The text of an error. -/
def PreferencesError.message : PreferencesError → String
  | malformed error => "failed to parse config YAML: " ++ error.message
  | blankDefaultTree => "config validation failed: default_tree must be non-empty"
  | badPattern pattern error =>
    "config validation failed: invalid ignore_attributes pattern '" ++ pattern ++ "': " ++
      error.message
  | badOptions error => "invalid ignore_attributes pattern: " ++ error.message

namespace Preferences

/-- The preferences that hold without a file. -/
def default : Preferences := ⟨defaultTreeName, [], [], .text, false⟩

/-- Whether a text has no character but white space. -/
def isBlank (text : String) : Bool := text.toList.all Unicode.isWhiteSpace

/-- The first thing in preferences that cannot be used: a default tree without a name, or a pattern
that cannot be read. -/
def validate (preferences : Preferences) : Except PreferencesError Unit := do
  if isBlank preferences.defaultTree then throw .blankDefaultTree
  preferences.ignoredAttributes.forM fun pattern =>
    match Pattern.Matcher.ofPattern pattern with
    | .ok _ => pure ()
    | .error error => throw (.badPattern pattern error)

/-- The options of a comparison. -/
def compareOptions (preferences : Preferences) : Except PreferencesError CompareOptions :=
  (CompareOptions.ignoring preferences.ignoredAttributes).mapError .badOptions

/-- The fields that a file has. -/
structure Fields where
  defaultTree? : Option String
  hints? : Option (List String)
  ignoredAttributes? : Option (List String)
  outputFormat? : Option OutputFormat
  showUnchanged? : Option Bool

/-- The preferences that a file with some fields gives. -/
def Fields.preferences (fields : Fields) : Preferences where
  defaultTree := fields.defaultTree?.getD default.defaultTree
  hints := fields.hints?.getD default.hints
  ignoredAttributes := fields.ignoredAttributes?.getD default.ignoredAttributes
  outputFormat := fields.outputFormat?.getD default.outputFormat
  showUnchanged := fields.showUnchanged?.getD default.showUnchanged

open Yaml in
/-- Takes the value of a field, unless it has been there before. -/
def takeOnce {α : Type} (name : String) (earlier? : Option α) (value : ItemReader α) :
    ItemReader (Option α) := do
  if earlier?.isSome then throw (.mismatch (.duplicateField name) none)
  return some (← value)

open Yaml in
/-- Takes the value of the field with a name. -/
def takeField (fields : Fields) (name : String) (written? : Option String) : ItemReader Fields := do
  let path := FieldPath.field written?
  match name with
  | "default_tree" => do
    let value ← takeOnce name fields.defaultTree? (ItemReader.text "a string" path)
    return { fields with defaultTree? := value }
  | "hints" => do
    let value ← takeOnce name fields.hints? (ItemReader.texts written?)
    return { fields with hints? := value }
  | "ignore_attributes" => do
    let value ← takeOnce name fields.ignoredAttributes? (ItemReader.texts written?)
    return { fields with ignoredAttributes? := value }
  | "output_format" => do
    let value ← takeOnce name fields.outputFormat? (ItemReader.choice OutputFormat.names path)
    return { fields with outputFormat? := value }
  | "show_unchanged" => do
    let value ← takeOnce name fields.showUnchanged? (ItemReader.boolean path)
    return { fields with showUnchanged? := value }
  | _ => do
    ItemReader.skipValue
    return fields

/-- The preferences that a file gives. A blank file gives the defaults. -/
def ofYaml (text : String) : Except PreferencesError Preferences := do
  if isBlank text then return default
  let fields ← (Yaml.decode
    (Yaml.ItemReader.record "struct Config" takeField ⟨none, none, none, none, none⟩) text).mapError
      .malformed
  let preferences := fields.preferences
  preferences.validate
  return preferences

/-- The preferences as a file. -/
def toYaml (preferences : Preferences) : String :=
  String.ofList (
    Yaml.Printer.field "default_tree" preferences.defaultTree ++
    Yaml.Printer.listField "hints" preferences.hints ++
    Yaml.Printer.listField "ignore_attributes" preferences.ignoredAttributes ++
    Yaml.Printer.field "output_format" preferences.outputFormat.label ++
    Yaml.Printer.booleanField "show_unchanged" preferences.showUnchanged)

end Preferences

end BehaviorDiff
