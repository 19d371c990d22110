import BehaviorDiff.Diff.Change

set_option autoImplicit false

/-!
The number of changes of each class.
-/

namespace BehaviorDiff

/-- The number of changes of each class. -/
structure Summary where
  added : Nat
  removed : Nat
  modified : Nat
  moved : Nat
  unchanged : Nat
  deriving DecidableEq, Repr

namespace Summary

/-- No change of any class. -/
def zero : Summary := ⟨0, 0, 0, 0, 0⟩

/-- The number of changes of one class. -/
def count (summary : Summary) : ChangeKind → Nat
  | .added => summary.added
  | .removed => summary.removed
  | .modified => summary.modified
  | .unchanged => summary.unchanged
  | .moved => summary.moved

/-- Counts one more change. -/
def add (summary : Summary) (kind : ChangeKind) : Summary :=
  match kind with
  | .added => { summary with added := summary.added + 1 }
  | .removed => { summary with removed := summary.removed + 1 }
  | .modified => { summary with modified := summary.modified + 1 }
  | .unchanged => { summary with unchanged := summary.unchanged + 1 }
  | .moved => { summary with moved := summary.moved + 1 }

/-- Counts the changes of a tree. -/
def of (changes : List Change) : Summary := (changes.map Change.kind).foldl add zero

/-- The number of changes that report a difference. -/
def changed (summary : Summary) : Nat :=
  summary.added + summary.removed + summary.modified + summary.moved

/-- The counts as a block of text. -/
def text (summary : Summary) : String :=
  "\n".intercalate
    [ "Summary:",
      "  Added: " ++ toString summary.added,
      "  Removed: " ++ toString summary.removed,
      "  Modified: " ++ toString summary.modified,
      "  Moved: " ++ toString summary.moved,
      "  Unchanged: " ++ toString summary.unchanged ]

end Summary

end BehaviorDiff
