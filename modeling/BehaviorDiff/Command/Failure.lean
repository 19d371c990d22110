import BehaviorDiff.Command.Files
import BehaviorDiff.Diff.PathIndex
import BehaviorDiff.Markup.Definitions
import BehaviorDiff.Preferences
import BehaviorDiff.Selection

set_option autoImplicit false

/-!
Why a command fails, and the exit codes.
-/

namespace BehaviorDiff

/-- How a command ends. -/
inductive ExitCode where
  | success
  | userError
  | parseFailure
  | preconditionFailure
  | changesDetected
  deriving DecidableEq, Repr

/-- The number of an exit code. -/
def ExitCode.number : ExitCode → Nat
  | success => 0
  | userError => 1
  | parseFailure => 2
  | preconditionFailure => 3
  | changesDetected => 4

/-- Why a command fails. -/
inductive Failure where
  | unreadablePreferences (path : String) (fault : ReadFault)
  | preferences (error : PreferencesError)
  | unreadableDocument (path : String) (fault : ReadFault)
  | malformedDocument (path : Option String) (error : Markup.DocumentError)
  | selection (error : SelectionError)
  | duplicatePath (error : DuplicatePath)
  | treeNotFound (name : String)
  | noTree (path : String)
  deriving DecidableEq, Repr

namespace Failure

/-- The text of a failure. -/
def message : Failure → String
  | unreadablePreferences path fault =>
    "failed to read config file '" ++ path ++ "': " ++ fault.message
  | .preferences error => error.message
  | unreadableDocument path fault => "failed to read '" ++ path ++ "': " ++ fault.message
  | malformedDocument path error =>
    "XML parse error: " ++ (path.map (· ++ ": ")).getD "" ++ error.message
  | .selection error => error.message
  | .duplicatePath error => "invalid tree: " ++ error.message
  | treeNotFound name => "tree '" ++ name ++ "' not found in input document"
  | noTree path => "no behavior tree found in '" ++ path ++ "'"

/-- The exit code of a failure. -/
def exitCode : Failure → ExitCode
  | unreadableDocument _ _ | malformedDocument _ _ => .parseFailure
  | duplicatePath _ => .preconditionFailure
  | _ => .userError

end Failure

end BehaviorDiff
