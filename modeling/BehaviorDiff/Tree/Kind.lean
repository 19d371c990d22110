set_option autoImplicit false

/-!
The category of a behavior-tree node, decided by its tag alone.
-/

namespace BehaviorDiff

/-- What a node does when it is ticked. -/
inductive NodeKind where
  | control
  | action
  | condition
  | decorator
  | subtree
  deriving DecidableEq, Repr

namespace NodeKind

/-- Tags of nodes that tick their children in some order. -/
def controlTags : List String :=
  ["Sequence", "Selector", "Fallback", "Parallel", "ReactiveSequence", "ReactiveFallback",
    "IfThenElse", "WhileDoElse", "ForEach", "Switch", "StatefulActionNode", "Control",
    "MultiRobotControl"]

/-- Tags of nodes that wrap and modify a single child. -/
def decoratorTags : List String :=
  ["Inverter", "ForceSuccess", "ForceFailure", "Repeat", "Retry", "Timeout", "Delay",
    "BlackboardPrecondition", "KeepRunningUntilFailure", "Decorator", "ReportFailure",
    "RetryUntilSuccessful", "BlackboardPostCheckString", "BlackboardPostCheckInt",
    "BlackboardPostCheckBool"]

/-- The kind of a tag; a tag of no other kind is a custom action. -/
def classify (tag : String) : NodeKind :=
  if tag ∈ controlTags then .control
  else if tag ∈ decoratorTags then .decorator
  else if tag = "SubTree" then .subtree
  else if tag = "Condition" then .condition
  else .action

/-- The lower-case word for a kind, as signatures and reports write it. -/
def label : NodeKind → String
  | control => "control"
  | action => "action"
  | condition => "condition"
  | decorator => "decorator"
  | subtree => "subtree"

/-- The kind that a lower-case word names. -/
def ofLabel? : String → Option NodeKind
  | "control" => some control
  | "action" => some action
  | "condition" => some condition
  | "decorator" => some decorator
  | "subtree" => some subtree
  | _ => none

theorem ofLabel?_label (kind : NodeKind) : ofLabel? kind.label = some kind := by
  cases kind <;> rfl

end NodeKind

end BehaviorDiff
