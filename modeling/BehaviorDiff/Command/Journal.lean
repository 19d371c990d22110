import BehaviorDiff.Selection

set_option autoImplicit false

/-!
The journal of a command: what it has done so far, for whoever wants to know. An entry has a level,
and the verbosity says up to which level entries are shown.
-/

namespace BehaviorDiff

/-- How much an entry matters. -/
inductive LogLevel where
  | warn
  | info
  | debug
  deriving DecidableEq, Repr

namespace LogLevel

/-- The level up to which entries are shown. -/
def ofVerbosity : Nat → LogLevel
  | 0 => warn
  | 1 => info
  | _ => debug

/-- The place of a level; a lower one matters more. -/
def rank : LogLevel → Nat
  | warn => 0
  | info => 1
  | debug => 2

/-- The name of a level, as wide as the widest. -/
def label : LogLevel → String
  | warn => " WARN"
  | info => " INFO"
  | debug => "DEBUG"

/-- The filter that shows entries up to a level. -/
def directive : LogLevel → String
  | warn => "btdiff=warn"
  | info => "btdiff=info"
  | debug => "btdiff=debug"

end LogLevel

/-- Something that a command has done. -/
inductive JournalEntry where
  | loadedPreferences (path : String)
  | usedDefaults
  | repeatedTree (name : String)
  | readDocument (path : String) (trees : Nat)
  | scoredTree (selection : Selection)
  | selectedTree (selection : Selection)
  | comparedTrees (oldNodes newNodes changed : Nat)
  | comparedDocuments (shared changed added removed : Nat)
  deriving DecidableEq, Repr

namespace JournalEntry

/-- How much an entry matters. -/
def level : JournalEntry → LogLevel
  | repeatedTree _ => .warn
  | selectedTree _ | comparedDocuments _ _ _ _ => .info
  | _ => .debug

/-- What has been done. -/
def message : JournalEntry → String
  | loadedPreferences _ => "loaded config"
  | usedDefaults => "no config file found, using defaults"
  | repeatedTree _ => "duplicate tree definition, keeping the later one"
  | readDocument _ _ => "parsed behavior tree file"
  | scoredTree _ => "scored tree"
  | selectedTree _ => "selected tree"
  | comparedTrees _ _ _ => "compared trees"
  | comparedDocuments _ _ _ _ => "compared documents"

/-- What it has been done to, and what came of it. -/
def details : JournalEntry → List (String × String)
  | loadedPreferences path => [("path", path)]
  | usedDefaults => []
  | repeatedTree name => [("tree", name)]
  | readDocument path trees => [("path", path), ("trees", toString trees)]
  | scoredTree selection | selectedTree selection =>
    [("tree", selection.name), ("score", toString selection.score)]
  | comparedTrees oldNodes newNodes changed =>
    [("old_nodes", toString oldNodes), ("new_nodes", toString newNodes),
      ("changed", toString changed)]
  | comparedDocuments shared changed added removed =>
    [("shared", toString shared), ("changed", toString changed), ("added", toString added),
      ("removed", toString removed)]

/-- An entry as a line. -/
def text (entry : JournalEntry) : String :=
  entry.level.label ++ " " ++ entry.message ++
    String.join (entry.details.map fun detail => " " ++ detail.1 ++ "=" ++ detail.2)

end JournalEntry

/-- What a command has done, in order. -/
abbrev Journal := List JournalEntry

/-- The lines of the entries up to a level. -/
def Journal.lines (journal : Journal) (level : LogLevel) : List String :=
  (journal.filter fun entry => entry.level.rank ≤ level.rank).map JournalEntry.text

end BehaviorDiff
