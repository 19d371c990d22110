import BehaviorDiff.Diff.Content
import BehaviorDiff.Pattern.Meaning

set_option autoImplicit false

/-!
Attributes that a comparison leaves out because their names contain a match of a pattern.
-/

namespace BehaviorDiff

/-- Leaves out the attributes in whose names one of the patterns matches; the first pattern that
cannot be read is reported. -/
def CompareOptions.ignoring (patterns : List String) :
    Except Pattern.PatternError CompareOptions := do
  let matchers ← patterns.mapM Pattern.Matcher.ofPattern
  return ⟨fun name => matchers.any (·.occursIn name)⟩

end BehaviorDiff
