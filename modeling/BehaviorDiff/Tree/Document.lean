import BehaviorDiff.Tree.Node

set_option autoImplicit false

/-!
A document is a set of named trees in the order of their definitions. A later definition of a name
takes the place of the earlier one.
-/

namespace BehaviorDiff

/-- The name of a tree that is defined without one. -/
def defaultTreeName : String := "MainTree"

/-- Named trees in definition order. -/
structure Document where
  trees : OrderedMap String Node

namespace Document

/-- The document that defines no tree. -/
def empty : Document := ⟨.empty⟩

/-- Defines a tree; a name that is there keeps its place. -/
def insert (document : Document) (name : String) (root : Node) : Document :=
  ⟨document.trees.insert name root⟩

/-- The document of a list of definitions. -/
def ofList (definitions : List (String × Node)) : Document := ⟨.ofList definitions⟩

/-- The tree of a name. -/
def get? (document : Document) (name : String) : Option Node := document.trees.get? name

/-- Whether a name is defined. -/
def contains (document : Document) (name : String) : Bool := document.trees.contains name

/-- The names in definition order. -/
def names (document : Document) : List String := document.trees.keys

/-- The trees in definition order, with their names. -/
def definitions (document : Document) : List (String × Node) := document.trees.entries

/-- The number of trees. -/
def size (document : Document) : Nat := document.trees.size

/-- Whether no tree is defined. -/
def isEmpty (document : Document) : Bool := document.trees.isEmpty

/-- The tree to show when none is asked for: the preferred one, else the first. -/
def default? (document : Document) (preferred : String) : Option (String × Node) :=
  match document.get? preferred with
  | some root => some (preferred, root)
  | none => document.definitions.head?

theorem mem_definitions_iff {document : Document} {name : String} {root : Node} :
    (name, root) ∈ document.definitions ↔ document.get? name = some root :=
  OrderedMap.mem_entries_iff

theorem names_nodup (document : Document) : document.names.Nodup := document.trees.nodup

/-- What a name stands for does not depend on the order of the definitions. -/
theorem get?_eq_of_perm {document other : Document}
    (perm : other.definitions.Perm document.definitions) (name : String) :
    other.get? name = document.get? name := by
  apply Option.ext
  intro root
  rw [← mem_definitions_iff, ← mem_definitions_iff, perm.mem_iff]

/-- The names of a list of definitions come in the order in which they are first defined. -/
theorem names_ofList (definitions : List (String × Node)) :
    (ofList definitions).names = (definitions.map Prod.fst).eraseDups :=
  OrderedMap.keys_ofList definitions

/-- The last definition of a name counts. -/
theorem get?_ofList (definitions : List (String × Node)) (name : String) :
    (ofList definitions).get? name = definitions.reverse.lookup name :=
  OrderedMap.get?_ofList definitions name

/-- The names that are defined again after an earlier definition, once for every repetition. -/
def repeatedNames (definitions : List (String × Node)) : List String :=
  go [] definitions
where
  go (earlier : List String) : List (String × Node) → List String
    | [] => []
    | (name, _) :: rest =>
      if name ∈ earlier then name :: go earlier rest else go (name :: earlier) rest

end Document

end BehaviorDiff
