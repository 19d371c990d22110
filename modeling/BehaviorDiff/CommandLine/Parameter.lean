import BehaviorDiff.CommandLine.Invocation

set_option autoImplicit false

/-!
The parameters of the commands: options with a name, and arguments that count by their position.
-/

namespace BehaviorDiff.CommandLine

/-- What a command line can give. -/
inductive Parameter where
  | preferences
  | verbose
  | help
  | version
  | tree
  | hint
  | format
  | showUnchanged
  | all
  | exitCode
  | old
  | new
  | file
  deriving DecidableEq, Repr

/-- What an occurrence of a parameter means: a value given once or any number of times, a switch
that is on, one more of a count, or a question. -/
inductive Role where
  | single
  | repeatable
  | switch
  | count
  | question (stop : UsageStop)
  deriving DecidableEq, Repr

namespace Parameter

/-- The name of an option; an argument has none. -/
def name? : Parameter → Option String
  | preferences => some "config"
  | verbose => some "verbose"
  | help => some "help"
  | version => some "version"
  | tree => some "tree"
  | hint => some "hint"
  | format => some "format"
  | showUnchanged => some "show-unchanged"
  | all => some "all"
  | exitCode => some "exit-code"
  | old | new | file => none

/-- The letter of an option. -/
def letter? : Parameter → Option Char
  | verbose => some 'v'
  | help => some 'h'
  | version => some 'V'
  | _ => none

/-- What an occurrence of a parameter means. -/
def role : Parameter → Role
  | preferences | tree | format | old | new | file => .single
  | hint => .repeatable
  | showUnchanged | all | exitCode => .switch
  | verbose => .count
  | help => .question .help
  | version => .question .version

/-- Whether a parameter has a value. -/
def hasValue (parameter : Parameter) : Bool :=
  match parameter.role with
  | .single | .repeatable => true
  | _ => false

/-- Whether a parameter may have a value: a path is not empty, and a format is a known one. -/
def accepts (parameter : Parameter) (value : String) : Bool :=
  match parameter with
  | preferences | old | new | file => value ≠ ""
  | format => (OutputFormat.names.lookup value).isSome
  | _ => true

end Parameter

/-- The parameters of a command, and the names of the commands that may follow. -/
structure Grammar where
  options : List Parameter
  arguments : List Parameter
  commands : List String

namespace Grammar

/-- The options that every command has. -/
def commonOptions : List Parameter := [.preferences, .verbose, .help, .version]

/-- The command that shows help. -/
def helpName : String := "help"

/-- What stands before the command. -/
def program : Grammar := ⟨commonOptions, [], ["compare", "show", "stats", helpName]⟩

/-- The parameters of a comparison. -/
def compare : Grammar :=
  ⟨[.tree, .hint, .format, .showUnchanged, .all, .exitCode] ++ commonOptions, [.old, .new], []⟩

/-- The parameters of an outline. -/
def outline : Grammar := ⟨.tree :: commonOptions, [.file], []⟩

/-- The parameters of statistics. -/
def stats : Grammar := ⟨commonOptions, [.file], []⟩

/-- The option of a name. -/
def option? (grammar : Grammar) (name : String) : Option Parameter :=
  grammar.options.find? fun option => option.name? = some name

/-- The option of a letter. -/
def optionOfLetter? (grammar : Grammar) (letter : Char) : Option Parameter :=
  grammar.options.find? fun option => option.letter? = some letter

end Grammar

end BehaviorDiff.CommandLine
