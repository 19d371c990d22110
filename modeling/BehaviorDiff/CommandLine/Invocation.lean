import BehaviorDiff.Preferences

set_option autoImplicit false

/-!
What a command line asks for.
-/

namespace BehaviorDiff

/-- A comparison of two files. -/
structure CompareRequest where
  old : String
  new : String
  tree : Option String
  hints : List String
  format : Option OutputFormat
  showUnchanged : Bool
  all : Bool
  exitCode : Bool
  deriving DecidableEq, Repr

/-- What is to be done. -/
inductive Command where
  | compare (request : CompareRequest)
  | outline (file : String) (tree : Option String)
  | stats (file : String)
  deriving DecidableEq, Repr

/-- What is to be done, under which preferences, and how much is to be logged. -/
structure Invocation where
  command : Command
  preferences : Option String
  verbosity : Nat
  deriving DecidableEq, Repr

/-- Why nothing is done: help or the version is asked for, or the command line cannot be understood.
-/
inductive UsageStop where
  | help
  | version
  | helpForMissingCommand
  | missingCommand
  | unknownCommand
  | missingArgument
  | unknownArgument
  | invalidValue
  | tooManyValues
  | conflict
  deriving DecidableEq, Repr

/-- The exit code: only what is asked for is a success. -/
def UsageStop.exitCode : UsageStop → Nat
  | help | version => 0
  | _ => 2

end BehaviorDiff
