import BehaviorDiff.Tree.Walk

set_option autoImplicit false

/-!
The nodes of one tree by path. A tree in which two nodes share a path has no index; the path that is
blamed is that of the first node, in pre-order, whose path an earlier node has already.
-/

namespace BehaviorDiff

/-- One of the two trees of a comparison. -/
inductive Side where
  | old
  | new
  deriving DecidableEq, Repr

/-- The word for a side. -/
def Side.label : Side → String
  | .old => "old"
  | .new => "new"

/-- Two nodes of one tree share a path. -/
structure DuplicatePath where
  side : Side
  path : String
  deriving DecidableEq, Repr

/-- The text of the complaint. -/
def DuplicatePath.message (error : DuplicatePath) : String :=
  "duplicate path '" ++ error.path ++ "' in " ++ error.side.label ++ " tree"

/-- The first text of a list that occurs before it, in the list or among the earlier ones. -/
def firstRepeated? (earlier : List String) : List String → Option String
  | [] => none
  | text :: rest =>
    if text ∈ earlier then some text else firstRepeated? (text :: earlier) rest

theorem firstRepeated?_eq_none_iff (texts earlier : List String) :
    firstRepeated? earlier texts = none ↔ texts.Nodup ∧ ∀ text ∈ texts, text ∉ earlier := by
  induction texts generalizing earlier with
  | nil => simp [firstRepeated?]
  | cons text rest ih =>
    by_cases h : text ∈ earlier
    · simp [firstRepeated?, h]
    · simp only [firstRepeated?, h, if_false, ih, List.nodup_cons, List.mem_cons, not_or]
      constructor
      · rintro ⟨nodup, fresh⟩
        refine ⟨⟨fun hm => (fresh text hm).1 rfl, nodup⟩, ?_⟩
        rintro other (rfl | hm)
        · exact h
        · exact (fresh other hm).2
      · rintro ⟨⟨hm, nodup⟩, fresh⟩
        refine ⟨nodup, fun other ho => ⟨?_, fresh other (Or.inr ho)⟩⟩
        rintro rfl
        exact hm ho

/-- The nodes of a tree in pre-order, no two of them with one path. -/
structure PathIndex where
  nodes : List Node
  nodup : (nodes.map Node.path).Nodup

namespace PathIndex

/-- The index of a tree, or the first path that occurs twice. -/
def ofTree (side : Side) (root : Node) : Except DuplicatePath PathIndex :=
  match h : firstRepeated? [] (root.nodes.map Node.path) with
  | some path => .error ⟨side, path⟩
  | none => .ok ⟨root.nodes, ((firstRepeated?_eq_none_iff _ _).1 h).1⟩

/-- The node at a path. -/
def get? (index : PathIndex) (path : String) : Option Node :=
  index.nodes.find? fun node => node.path == path

/-- Whether a node stands at a path. -/
def contains (index : PathIndex) (path : String) : Bool := (index.get? path).isSome

end PathIndex

end BehaviorDiff
