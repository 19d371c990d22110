import BehaviorDiff.Tree.Walk

set_option autoImplicit false

/-!
The way from the root of a tree to one of its nodes. A chain lists the tag of the root and then, for
every step down, the tag of the child with its identity, or else with the number of earlier siblings
of its tag. The chain is read off the tree, without a look at paths and depths; a built tree has
under every chain a node whose path is the text of the chain and whose depth is its length.
-/

namespace BehaviorDiff

/-- What tells a child from its siblings of the same tag. -/
inductive Mark where
  | identity (id : String)
  | rank (count : Nat)
  deriving DecidableEq, Repr

/-- One step down in a tree. -/
structure Step where
  tag : String
  mark : Mark
  deriving DecidableEq, Repr

/-- The way from the root of a tree to a node. -/
structure Chain where
  root : String
  steps : List Step
  deriving DecidableEq, Repr

/-- The step to a child, given the tags of the siblings before it. -/
def Step.to (child : Node) (before : List String) : Step where
  tag := child.tag
  mark :=
    match child.attributes.id? with
    | some id => .identity id
    | none => .rank (before.count child.tag)

/-- A node stands in a tree at the end of a chain. -/
inductive ChainTo (root : Node) : Chain → Node → Prop
  | root : ChainTo root ⟨root.tag, []⟩ root
  | child {chain : Chain} {parent child : Node} {before after : List Node} :
      ChainTo root chain parent → parent.children = before ++ child :: after →
        ChainTo root ⟨chain.root, chain.steps ++ [.to child (before.map Node.tag)]⟩ child

mutual

private theorem exists_chain_below {root : Node} :
    (top : Node) → {chain : Chain} → ChainTo root chain top → {node : Node} →
      node ∈ top.preorder → ∃ chain, ChainTo root chain node
  | ⟨tag, kind, attributes, children, depth, path⟩, chain, reached, node, hm => by
    rcases List.mem_cons.1 hm with rfl | hm
    · exact ⟨chain, reached⟩
    · exact exists_chain_among [] children reached rfl hm

private theorem exists_chain_among {root : Node} :
    (before rest : List Node) → {chain : Chain} → {parent : Node} → ChainTo root chain parent →
      parent.children = before ++ rest → {node : Node} → node ∈ Node.preorderAll rest →
        ∃ chain, ChainTo root chain node
  | before, child :: after, _, _, reached, split, _, hm => by
    rcases List.mem_append.1 hm with hm | hm
    · exact exists_chain_below child (.child reached split) hm
    · refine exists_chain_among (before ++ [child]) after reached ?_ hm
      rw [split, List.append_assoc]
      rfl

end

/-- Every node of a tree stands at the end of a chain. -/
theorem exists_chain_of_mem_preorder {root node : Node} (hm : node ∈ root.preorder) :
    ∃ chain, ChainTo root chain node :=
  exists_chain_below root .root hm

private theorem mem_preorderAll_of_mem {nodes : List Node} {node : Node} (hm : node ∈ nodes) :
    node ∈ Node.preorderAll nodes := by
  induction nodes with
  | nil => exact absurd hm List.not_mem_nil
  | cons first rest ih =>
    rw [Node.preorderAll, List.mem_append]
    rcases List.mem_cons.1 hm with rfl | later
    · rw [Node.preorder_eq]
      exact .inl List.mem_cons_self
    · exact .inr (ih later)

mutual

private theorem child_mem_preorder :
    (top : Node) → {parent child : Node} → parent ∈ top.preorder → child ∈ parent.children →
      child ∈ top.preorder
  | ⟨tag, kind, attributes, children, depth, path⟩, parent, child, hp, hc => by
    rcases List.mem_cons.1 hp with rfl | hp
    · exact List.mem_cons_of_mem _ (mem_preorderAll_of_mem hc)
    · exact List.mem_cons_of_mem _ (child_mem_preorderAll children hp hc)

private theorem child_mem_preorderAll :
    (nodes : List Node) → {parent child : Node} → parent ∈ Node.preorderAll nodes →
      child ∈ parent.children → child ∈ Node.preorderAll nodes
  | first :: rest, _, _, hp, hc => by
    rcases List.mem_append.1 hp with hp | hp
    · exact List.mem_append_left _ (child_mem_preorder first hp hc)
    · exact List.mem_append_right _ (child_mem_preorderAll rest hp hc)

end

/-- Only nodes of the tree stand at the end of a chain. -/
theorem ChainTo.mem_preorder {root node : Node} {chain : Chain} (h : ChainTo root chain node) :
    node ∈ root.preorder := by
  induction h with
  | root =>
    rw [Node.preorder_eq]
    exact List.mem_cons_self
  | child _ split ih =>
    refine child_mem_preorder root ih ?_
    rw [split]
    exact List.mem_append_right _ List.mem_cons_self

/-- The tag at the end of a chain. -/
def Chain.tag (chain : Chain) : String := (chain.steps.getLast?.map Step.tag).getD chain.root

theorem ChainTo.tag_eq {root node : Node} {chain : Chain} (h : ChainTo root chain node) :
    node.tag = chain.tag := by
  cases h with
  | root => rfl
  | child _ _ => simp [Chain.tag, Step.to]

/-- The text of a step. -/
def Step.text (step : Step) : String :=
  match step.mark with
  | .identity id => step.tag ++ "[@ID='" ++ id ++ "']"
  | .rank count => step.tag ++ "[" ++ toString count ++ "]"

/-- The text of a chain: the tag of the root and the texts of the steps with slashes between. -/
def Chain.path (chain : Chain) : String :=
  chain.steps.foldl (fun path step => path ++ "/" ++ step.text) chain.root

theorem Chain.path_append (root : String) (steps : List Step) (step : Step) :
    Chain.path ⟨root, steps ++ [step]⟩ = Chain.path ⟨root, steps⟩ ++ "/" ++ step.text := by
  rw [Chain.path, List.foldl_append]
  rfl

theorem pathStep_eq_text (child : Node) (before : List String) :
    Draft.pathStep child.tag child.attributes (before.count child.tag) =
      (Step.to child before).text := by
  rw [Draft.pathStep, Step.text, Step.to]
  cases child.attributes.id? <;> rfl

namespace Draft

@[simp] theorem tag_buildAt (path : String) (depth : Nat) (draft : Draft) :
    (draft.buildAt path depth).tag = draft.tag := by cases draft; rfl

@[simp] theorem kind_buildAt (path : String) (depth : Nat) (draft : Draft) :
    (draft.buildAt path depth).kind = .classify draft.tag := by cases draft; rfl

@[simp] theorem attributes_buildAt (path : String) (depth : Nat) (draft : Draft) :
    (draft.buildAt path depth).attributes = draft.attributes := by cases draft; rfl

@[simp] theorem children_buildAt (path : String) (depth : Nat) (draft : Draft) :
    (draft.buildAt path depth).children = buildChildren path (depth + 1) [] draft.children := by
  cases draft; rfl

@[simp] theorem depth_buildAt (path : String) (depth : Nat) (draft : Draft) :
    (draft.buildAt path depth).depth = depth := by cases draft; rfl

@[simp] theorem path_buildAt (path : String) (depth : Nat) (draft : Draft) :
    (draft.buildAt path depth).path = path := by cases draft; rfl

/-- A child is built at the path of its parent and its own step, which counts the siblings before
it. -/
theorem exists_buildAt_of_buildChildren {parent : String} {depth : Nat} {earlier : List String}
    {drafts : List Draft} {before after : List Node} {child : Node}
    (split : buildChildren parent depth earlier drafts = before ++ child :: after) :
    ∃ draft : Draft, child = draft.buildAt (parent ++ "/" ++ pathStep child.tag child.attributes
      ((before.map Node.tag).count child.tag + earlier.count child.tag)) depth := by
  induction drafts generalizing earlier before with
  | nil =>
    rw [buildChildren] at split
    cases before <;> cases split
  | cons first rest ih =>
    rw [buildChildren] at split
    cases before with
    | nil =>
      obtain ⟨rfl, -⟩ := List.cons.inj split
      refine ⟨first, ?_⟩
      rw [tag_buildAt, attributes_buildAt, List.map_nil, List.count_nil, Nat.zero_add]
    | cons sibling before =>
      obtain ⟨rfl, later⟩ := List.cons.inj split
      obtain ⟨draft, h⟩ := ih later
      refine ⟨draft, ?_⟩
      have counted : (first.tag :: before.map Node.tag).count child.tag + earlier.count child.tag =
          (before.map Node.tag).count child.tag + (first.tag :: earlier).count child.tag := by
        rw [List.count_cons, List.count_cons]
        omega
      rw [List.map_cons, tag_buildAt, counted]
      exact h

end Draft

/-- A chain in a built tree leads to a node that was built at its text and its length. -/
theorem ChainTo.exists_draft {draft : Draft} {chain : Chain} {node : Node}
    (h : ChainTo draft.build chain node) :
    ∃ below : Draft, node = below.buildAt chain.path chain.steps.length := by
  induction h with
  | root => exact ⟨draft, by rw [Draft.build, Draft.tag_buildAt]; rfl⟩
  | @child chain parent child before after _ split ih =>
    -- What the parent hands down is its own path and depth, which the induction gives.
    obtain ⟨above, rfl⟩ := ih
    rw [Draft.children_buildAt] at split
    obtain ⟨below, h⟩ := Draft.exists_buildAt_of_buildChildren split
    refine ⟨below, h.trans ?_⟩
    rw [List.count_nil, Nat.add_zero, pathStep_eq_text, Chain.path_append, List.length_append,
      List.length_singleton]

/-- The kind of a node in a built tree is that of its tag. -/
theorem kind_of_mem_build {draft : Draft} {node : Node} (hm : node ∈ draft.build.preorder) :
    node.kind = .classify node.tag := by
  obtain ⟨chain, reached⟩ := exists_chain_of_mem_preorder hm
  obtain ⟨below, rfl⟩ := reached.exists_draft
  rw [Draft.kind_buildAt, Draft.tag_buildAt]

theorem path_build (draft : Draft) : draft.build.path = draft.build.tag := by
  rw [Draft.build, Draft.path_buildAt, Draft.tag_buildAt]

/-- The path of a child is that of its parent and the step between them. -/
theorem path_of_getElem? {draft : Draft} {parent child : Node}
    (hp : parent ∈ draft.build.preorder) {index : Nat}
    (here : parent.children[index]? = some child) :
    child.path =
      parent.path ++ "/" ++ (Step.to child ((parent.children.take index).map Node.tag)).text := by
  obtain ⟨bound, rfl⟩ := List.getElem?_eq_some_iff.1 here
  obtain ⟨chain, above⟩ := exists_chain_of_mem_preorder hp
  have split : parent.children = parent.children.take index ++
      parent.children[index] :: parent.children.drop (index + 1) := by
    rw [List.getElem_cons_drop, List.take_append_drop]
  have reached := above.child split
  obtain ⟨upper, h⟩ := above.exists_draft
  obtain ⟨lower, h'⟩ := reached.exists_draft
  rw [congrArg Node.path h', congrArg Node.path h, Draft.path_buildAt, Draft.path_buildAt,
    Chain.path_append]

end BehaviorDiff
