import BehaviorDiff.CommandLine.Invocation

set_option autoImplicit false

/-!
What is shown when nothing is done.
-/

namespace BehaviorDiff

/-- The name and the version of the program. -/
def versionText : String := "btdiff 0.1.0"

/-- How the program is used. -/
def usageText : String := "\n".intercalate [
  "Structural diff for behavior tree documents",
  "",
  "Usage: btdiff [--config PATH] [-v]... COMMAND",
  "",
  "Commands:",
  "  compare OLD NEW [--tree TREE | --all] [--hint ID]... [--format text|json]",
  "          [--show-unchanged] [--exit-code]",
  "  show FILE [--tree TREE]",
  "  stats FILE",
  "  help [COMMAND]" ]

namespace UsageStop

/-- Why nothing is done, in words. -/
def reason? : UsageStop → Option String
  | help | version | helpForMissingCommand => none
  | missingCommand => some "a command is missing"
  | unknownCommand => some "the command is unknown"
  | missingArgument => some "an argument is missing"
  | unknownArgument => some "an argument is not expected"
  | invalidValue => some "a value is missing or not accepted"
  | tooManyValues => some "a value is given to an option that has none"
  | conflict => some "two arguments cannot be used together"

/-- What is shown. -/
def text (stop : UsageStop) : String :=
  match stop with
  | version => versionText
  | _ => ((stop.reason?.map fun reason => "error: " ++ reason ++ "\n\n").getD "") ++ usageText

end UsageStop

end BehaviorDiff
