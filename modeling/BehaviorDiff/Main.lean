import BehaviorDiff.Command.Run
import BehaviorDiff.CommandLine.Reading
import BehaviorDiff.CommandLine.Usage
import Std.Time.DateTime.Timestamp

set_option autoImplicit false

/-!
The program: it reads the files that a command line names and the clock, and writes what the command
has to say.
-/

namespace BehaviorDiff

/-- What stands at a path of the file system. -/
def entryAt (path : String) : IO FileEntry := do
  try
    return .file (← IO.FS.readBinFile path)
  catch
    | .noFileOrDirectory .. => return .missing
    | .inappropriateType .. => return .directory
    | error => return .unreadable (toString error)

/-- What stands at some paths; all others are taken to be empty. -/
def filesAt (paths : List String) : IO Files := do
  let entries ← paths.mapM fun path => return (path, ← entryAt path)
  return ⟨fun path => (entries.lookup path).getD .missing⟩

/-- The instant that the clock shows. -/
def clock : IO Timestamp := do
  let time := (← Std.Time.Timestamp.now).val
  return (Timestamp.of? time.second.val time.nano.val.toNat).getD .epoch

/-- Does what a command line asks for, and returns the exit code. -/
def runProgram (words : List String) : IO Nat := do
  match CommandLine.invocationOf words with
  | .error stop =>
    (if stop.exitCode = 0 then IO.println else IO.eprintln) stop.text
    return stop.exitCode
  | .ok invocation =>
    let (result, journal) := invocation.execute (← filesAt invocation.paths) (← clock)
    for line in journal.lines (.ofVerbosity invocation.verbosity) do
      IO.eprintln line
    IO.print (standardOutput result)
    match result with
    | .ok outcome => return outcome.exitCode.number
    | .error failure =>
      IO.eprintln ("Error: " ++ failure.message)
      return failure.exitCode.number

end BehaviorDiff

/-- The entry point. -/
def main (words : List String) : IO UInt32 := return (← BehaviorDiff.runProgram words).toUInt32
