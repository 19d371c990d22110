set_option autoImplicit false

/-!
The files that a command can read.
-/

namespace BehaviorDiff

/-- What stands at a path. -/
inductive FileEntry where
  | missing
  | directory
  | file (content : ByteArray)
  | unreadable (reason : String)

/-- Why a file gives no text. -/
inductive ReadFault where
  | missing
  | directory
  | notText
  | other (reason : String)
  deriving DecidableEq, Repr

/-- The text of a fault. -/
def ReadFault.message : ReadFault → String
  | missing => "No such file or directory (os error 2)"
  | directory => "Is a directory (os error 21)"
  | notText => "stream did not contain valid UTF-8"
  | other reason => reason

/-- What stands at every path. -/
structure Files where
  entry : String → FileEntry

namespace Files

/-- The text of a file. -/
def read (files : Files) (path : String) : Except ReadFault String :=
  match files.entry path with
  | .missing => .error .missing
  | .directory => .error .directory
  | .unreadable reason => .error (.other reason)
  | .file content =>
    match String.fromUTF8? content with
    | some text => .ok text
    | none => .error .notText

/-- Whether a path is a file. -/
def isFile (files : Files) (path : String) : Bool :=
  match files.entry path with
  | .file _ | .unreadable _ => true
  | _ => false

end Files

end BehaviorDiff
