import BehaviorDiff.Proofs.Tree.Address
import BehaviorDiff.Proofs.Tree.Edit
import BehaviorDiff.Proofs.Tree.Order

set_option autoImplicit false

/-!
Where a path occurs for the second time. Siblings of one tag and one identity have one path, and so
have the nodes at one place below them. If tags and identities can be told apart in a path, there is
no other way: two nodes of one path are reached by the same steps, and where the ways part there
are two such siblings. So the first path that repeats an earlier one is that of a sibling.
-/

namespace BehaviorDiff

/-- Two nodes have one tag and one identity. -/
def Twins (a b : Node) : Prop :=
  a.tag = b.tag ∧ ∃ id, a.attributes.id? = some id ∧ b.attributes.id? = some id

namespace Node

/-- The node at a position has an earlier sibling of its tag and its identity. -/
inductive RepeatsSibling (root : Node) : Position → Prop
  | intro {above : Position} {earlier index : Nat} {parent twin child : Node} :
      root.at? above = some parent → earlier < index → parent.children[earlier]? = some twin →
        parent.children[index]? = some child → Twins twin child →
          RepeatsSibling root (above ++ [index])

/-- The steps down to a position. -/
def stepsTo : Node → Position → List Step
  | _, [] => []
  | node, index :: below =>
    match node.children[index]? with
    | some child => .to child ((node.children.take index).map tag) :: child.stepsTo below
    | none => []

theorem stepsTo_cons {node child : Node} {index : Nat} (here : node.children[index]? = some child)
    (below : Position) :
    node.stepsTo (index :: below) =
      .to child ((node.children.take index).map tag) :: child.stepsTo below := by
  rw [stepsTo, here]

theorem stepsTo_append {root parent : Node} {above : Position}
    (found : root.at? above = some parent) (below : Position) :
    root.stepsTo (above ++ below) = root.stepsTo above ++ parent.stepsTo below := by
  induction above generalizing root with
  | nil =>
    obtain rfl : root = parent := Option.some.inj found
    rfl
  | cons index above ih =>
    obtain ⟨child, here, found⟩ := at?_cons_eq_some_iff.1 found
    rw [List.cons_append, stepsTo_cons here, stepsTo_cons here, ih found, List.cons_append]

/-- The steps of a plain tree are plain. -/
theorem plain_stepsTo {root : Node} (plain : ∀ node ∈ root.preorder, node.Plain)
    (position : Position) : ∀ step ∈ root.stepsTo position, step.Plain := by
  induction position generalizing root with
  | nil => exact fun step hm => absurd hm List.not_mem_nil
  | cons index below ih =>
    cases here : root.children[index]? with
    | none => simp [stepsTo, here]
    | some child =>
      have inside := mem_preorder_of_getElem? here
      rw [stepsTo_cons here, List.forall_mem_cons]
      exact ⟨Step.plain_to (plain child inside) _,
        ih fun node hm => plain node (mem_preorder_trans inside hm)⟩

/-- Twins are reached by one step. -/
theorem step_to_eq_of_twins {a b : Node} (twins : Twins a b) (before before' : List String) :
    Step.to a before = Step.to b before' := by
  obtain ⟨tag, id, ha, hb⟩ := twins
  rw [Step.to, Step.to, ha, hb, tag]

/-- The rank of a later sibling counts an earlier one, too. -/
theorem rank_lt_rank {siblings : List Node} {twin : Node} {earlier index : Nat}
    (before : earlier < index) (there : siblings[earlier]? = some twin) :
    ((siblings.take earlier).map tag).count twin.tag <
      ((siblings.take index).map tag).count twin.tag := by
  have counted : ((siblings.take (earlier + 1)).map tag).count twin.tag =
      ((siblings.take earlier).map tag).count twin.tag + 1 := by
    rw [List.take_add_one, there]
    simp
  have inside : siblings.take (earlier + 1) <+: siblings.take index :=
    List.take_prefix_take_left before
  have more := (inside.sublist.map tag).count_le twin.tag
  rwa [counted] at more

/-- If one step leads to two siblings, these are twins: two ranks of one tag are different. -/
theorem twins_of_step_to_eq {parent twin child : Node} {earlier index : Nat}
    (before : earlier < index) (there : parent.children[earlier]? = some twin)
    (same : Step.to twin ((parent.children.take earlier).map tag) =
      Step.to child ((parent.children.take index).map tag)) : Twins twin child := by
  obtain ⟨tags, marks⟩ := Step.mk.inj same
  refine ⟨tags, ?_⟩
  cases identity : twin.attributes.id? with
  | some id =>
    cases identity' : child.attributes.id? with
    | some id' =>
      rw [identity, identity'] at marks
      obtain rfl := Mark.identity.inj marks
      exact ⟨id, rfl, rfl⟩
    | none =>
      rw [identity, identity'] at marks
      cases marks
  | none =>
    cases identity' : child.attributes.id? with
    | some id' =>
      rw [identity, identity'] at marks
      cases marks
    | none =>
      rw [identity, identity', ← tags] at marks
      exact absurd (Mark.rank.inj marks) (Nat.ne_of_lt (rank_lt_rank before there))

/-- Where two ways of the same steps part, there are twins: the one that comes later in pre-order
goes through a node that repeats a sibling. -/
theorem exists_repeatsSibling_of_stepsTo_eq {root a b : Node} {before after : Position}
    (first : root.at? before = some a) (later : root.at? after = some b) (order : before < after)
    (same : root.stepsTo before = root.stepsTo after) :
    ∃ top, top <+: after ∧ root.RepeatsSibling top := by
  induction before generalizing root after with
  | nil =>
    cases after with
    | nil => exact absurd order (List.lt_irrefl _)
    | cons index below =>
      obtain ⟨child, here, -⟩ := at?_cons_eq_some_iff.1 later
      rw [stepsTo_cons here] at same
      cases same
  | cons earlier above ih =>
    cases after with
    | nil => exact absurd order (List.not_lt_nil _)
    | cons index below =>
      obtain ⟨twin, there, first⟩ := at?_cons_eq_some_iff.1 first
      obtain ⟨child, here, later⟩ := at?_cons_eq_some_iff.1 later
      rw [stepsTo_cons there, stepsTo_cons here] at same
      obtain ⟨step, deeper⟩ := List.cons.inj same
      rcases List.cons_lt_cons_iff.1 order with apart | ⟨rfl, inner⟩
      · have twins := twins_of_step_to_eq apart there step
        refine ⟨[index], ⟨below, rfl⟩, ?_⟩
        exact @Node.RepeatsSibling.intro root [] _ _ _ _ _ rfl apart there here twins
      · obtain rfl := Option.some.inj (there.symm.trans here)
        obtain ⟨top, inside, repeats⟩ := ih first later inner deeper
        refine ⟨earlier :: top, (List.prefix_cons_inj earlier).2 inside, ?_⟩
        cases repeats with
        | @intro above _ _ _ _ _ found apart there' here' twins =>
          have found' := at?_cons_eq_some_iff.2 ⟨twin, there, found⟩
          exact .intro found' apart there' here' twins

/-- A node that repeats a sibling is reached by the same steps as a node before it. -/
theorem RepeatsSibling.exists_stepsTo_eq {root : Node} {position : Position}
    (repeats : root.RepeatsSibling position) :
    ∃ before twin, root.at? before = some twin ∧ before < position ∧
      root.stepsTo before = root.stepsTo position := by
  cases repeats with
  | @intro above earlier index parent twin child found apart there here twins =>
    refine ⟨above ++ [earlier], twin, ?_, ?_, ?_⟩
    · rw [at?_append, found]
      exact at?_cons_eq_some_iff.2 ⟨twin, there, rfl⟩
    · rw [append_lt_append_iff]
      exact List.cons_lt_cons_iff.2 (.inl apart)
    · rw [stepsTo_append found, stepsTo_append found, stepsTo_cons there, stepsTo_cons here,
        step_to_eq_of_twins twins]
      rfl

theorem RepeatsSibling.exists_at? {root : Node} {position : Position}
    (repeats : root.RepeatsSibling position) : ∃ node, root.at? position = some node := by
  cases repeats with
  | @intro above _ index parent _ child found _ _ here _ =>
    refine ⟨child, ?_⟩
    rw [at?_append, found]
    exact at?_cons_eq_some_iff.2 ⟨child, here, rfl⟩

end Node

namespace Draft

theorem map_tag_buildChildren (parent : String) (depth : Nat) (earlier : List String)
    (drafts : List Draft) :
    (buildChildren parent depth earlier drafts).map Node.tag = drafts.map tag := by
  induction drafts generalizing earlier with
  | nil => rfl
  | cons first rest ih => rw [buildChildren, List.map_cons, List.map_cons, ih, tag_buildAt]

/-- The path of a node in a built tree is the path of the root with the steps behind it. -/
theorem toList_path_of_at? {draft : Draft} {position : Position} {path : String} {depth : Nat}
    {node : Node} (found : (draft.buildAt path depth).at? position = some node) :
    node.path.toList =
      path.toList ++ ((draft.buildAt path depth).stepsTo position).flatMap Step.chars := by
  induction position generalizing draft path depth with
  | nil =>
    obtain rfl := Option.some.inj found
    simp [Node.stepsTo]
  | cons index below ih =>
    obtain ⟨child, here, found⟩ := Node.at?_cons_eq_some_iff.1 found
    have built := here
    rw [getElem?_children_buildAt, Option.map_eq_some_iff] at built
    obtain ⟨inner, -, rfl⟩ := built
    rw [ih found, Node.stepsTo_cons here, List.flatMap_cons, ← List.append_assoc]
    congr 1
    rw [← Step.toList_text, ← pathStep_eq_text, children_buildAt, List.map_take,
      map_tag_buildChildren, childPath, tag_buildAt, attributes_buildAt, List.map_take]
    simp

end Draft

/-- The path at a position, if the position is in the tree. -/
def Node.pathAt? (root : Node) (position : Position) : Option String :=
  (root.at? position).map path

theorem Node.map_pathAt? (root : Node) :
    root.positions.map root.pathAt? = (root.preorder.map path).map some :=
  root.map_positions path

/-- The first path of a tree, in pre-order, that a node before it has already. -/
def Node.FirstRepeats (root : Node) (path : String) : Prop :=
  ∃ before after, root.preorder.map Node.path = before ++ path :: after ∧ path ∈ before ∧
    before.Nodup

/-- The first position of a tree, in pre-order, whose node repeats a sibling. -/
def Node.FirstRepeatsSibling (root : Node) (position : Position) : Prop :=
  ∃ before after, root.positions = before ++ position :: after ∧ root.RepeatsSibling position ∧
    ∀ other ∈ before, ¬ root.RepeatsSibling other

namespace Draft

section Plain
variable {draft : Draft} (plain : ∀ node ∈ draft.build.preorder, node.Plain)

include plain

/-- In a plain tree two nodes have one path exactly if they are reached by the same steps. -/
theorem pathAt?_eq_iff_stepsTo_eq {a b : Node} {position position' : Position}
    (found : draft.build.at? position = some a) (found' : draft.build.at? position' = some b) :
    draft.build.pathAt? position = draft.build.pathAt? position' ↔
      draft.build.stepsTo position = draft.build.stepsTo position' := by
  rw [Node.pathAt?, Node.pathAt?, found, found', Option.map_some, Option.map_some,
    Option.some.injEq, ← String.toList_inj, toList_path_of_at? found, toList_path_of_at? found',
    List.append_cancel_left_eq]
  constructor
  · exact steps_eq_of_chars (Node.plain_stepsTo plain position) (Node.plain_stepsTo plain position')
  · exact congrArg (List.flatMap Step.chars)

/-- A node whose path an earlier node has is in or below one that repeats a sibling. -/
theorem exists_repeatsSibling_of_pathAt?_eq {before after : Position}
    (first : before ∈ draft.build.positions) (later : after ∈ draft.build.positions)
    (order : before < after) (same : draft.build.pathAt? before = draft.build.pathAt? after) :
    ∃ top, top <+: after ∧ draft.build.RepeatsSibling top := by
  obtain ⟨a, found⟩ := Node.mem_positions_iff.1 first
  obtain ⟨b, found'⟩ := Node.mem_positions_iff.1 later
  exact Node.exists_repeatsSibling_of_stepsTo_eq found found' order
    ((pathAt?_eq_iff_stepsTo_eq plain found found').1 same)

/-- A node that repeats a sibling has the path of an earlier node. -/
theorem exists_pathAt?_eq_of_repeatsSibling {position : Position}
    (repeats : draft.build.RepeatsSibling position) :
    ∃ before ∈ draft.build.positions, before < position ∧
      draft.build.pathAt? before = draft.build.pathAt? position := by
  obtain ⟨before, twin, found, order, steps⟩ := repeats.exists_stepsTo_eq
  obtain ⟨node, found'⟩ := repeats.exists_at?
  exact ⟨before, Node.mem_positions_iff.2 ⟨twin, found⟩, order,
    (pathAt?_eq_iff_stepsTo_eq plain found found').2 steps⟩

/-- Among the first positions of a plain tree no path occurs twice exactly if no node repeats a
sibling. -/
theorem nodup_pathAt?_iff {before rest : List Position}
    (split : draft.build.positions = before ++ rest) :
    (before.map draft.build.pathAt?).Nodup ↔
      ∀ position ∈ before, ¬ draft.build.RepeatsSibling position := by
  have known {position : Position} (hm : position ∈ before) :
      position ∈ draft.build.positions := split ▸ List.mem_append_left rest hm
  constructor
  · intro distinct position hm repeats
    obtain ⟨other, ho, order, same⟩ := exists_pathAt?_eq_of_repeatsSibling plain repeats
    have hb := Node.mem_of_lt_of_positions_eq split hm ho order
    obtain rfl := List.inj_on_of_nodup_map distinct hb hm same
    exact lt_irrefl _ order
  · intro free
    have sorted := Node.pairwise_positions draft.build
    rw [split, List.pairwise_append] at sorted
    rw [List.Nodup, List.pairwise_map]
    refine sorted.1.imp_of_mem fun {earlier later} he hl order same => ?_
    obtain ⟨top, ⟨below, rfl⟩, repeats⟩ :=
      exists_repeatsSibling_of_pathAt?_eq plain (known he) (known hl) order same
    obtain ⟨node, found⟩ := repeats.exists_at?
    by_cases here : below = []
    · subst here
      exact free _ hl (by rwa [List.append_nil])
    · have hb := Node.mem_of_lt_of_positions_eq split hl
        (Node.mem_positions_iff.2 ⟨node, found⟩) (Node.lt_append top here)
      exact free top hb repeats

/-- A plain tree has a path twice exactly if some node repeats a sibling. -/
theorem nodup_paths_iff :
    (draft.build.preorder.map Node.path).Nodup ↔
      ∀ position, ¬ draft.build.RepeatsSibling position := by
  have all := nodup_pathAt?_iff plain (List.append_nil draft.build.positions).symm
  rw [Node.map_pathAt?, List.nodup_map_iff (Option.some_injective _)] at all
  rw [all]
  constructor
  · intro free position repeats
    exact free position (Node.mem_positions_iff.2 repeats.exists_at?) repeats
  · exact fun free position _ => free position

/-- If none of some first nodes repeats a sibling, the next node does so exactly if it has the path
of one of them. -/
theorem repeatsSibling_iff_pathAt?_mem {before after : List Position} {position : Position}
    (split : draft.build.positions = before ++ position :: after)
    (free : ∀ other ∈ before, ¬ draft.build.RepeatsSibling other) :
    draft.build.RepeatsSibling position ↔
      draft.build.pathAt? position ∈ before.map draft.build.pathAt? := by
  have upTo : draft.build.positions = (before ++ [position]) ++ after := by
    rw [split, List.append_assoc, List.singleton_append]
  have last : position ∈ before ++ [position] :=
    List.mem_append_right before (List.mem_singleton_self position)
  constructor
  · intro repeats
    obtain ⟨other, known, order, same⟩ := exists_pathAt?_eq_of_repeatsSibling plain repeats
    have earlier := Node.mem_of_lt_of_positions_eq upTo last known order
    rcases List.mem_append.1 earlier with earlier | here
    · exact same ▸ List.mem_map_of_mem earlier
    · rw [List.mem_singleton.1 here] at order
      exact absurd order (lt_irrefl position)
  · intro known
    by_contra fresh
    have free' : ∀ other ∈ before ++ [position], ¬ draft.build.RepeatsSibling other :=
      List.forall_mem_append.2 ⟨free, List.forall_mem_singleton.2 fresh⟩
    have distinct := (nodup_pathAt?_iff plain upTo).2 free'
    rw [List.map_append, List.map_singleton, List.nodup_append] at distinct
    exact distinct.2.2 _ known _ (List.mem_singleton_self _) rfl

/-- The first path of a plain tree that repeats an earlier one is that of the first node that
repeats a sibling. -/
theorem firstRepeats_iff {path : String} :
    draft.build.FirstRepeats path ↔
      ∃ position, draft.build.FirstRepeatsSibling position ∧
        draft.build.pathAt? position = some path := by
  have paths := Node.map_pathAt? draft.build
  constructor
  · rintro ⟨before, after, split, known, distinct⟩
    rw [split, List.map_append, List.map_cons, List.map_eq_append_iff] at paths
    obtain ⟨before', rest, split', first, paths⟩ := paths
    obtain ⟨position, after', rfl, here, -⟩ := List.map_eq_cons_iff.1 paths
    have free : ∀ other ∈ before', ¬ draft.build.RepeatsSibling other := by
      rw [← nodup_pathAt?_iff plain split', first]
      exact distinct.map (Option.some_injective _)
    refine ⟨position, ⟨before', after', split', ?_, free⟩, here⟩
    rw [repeatsSibling_iff_pathAt?_mem plain split' free, first, here]
    exact List.mem_map_of_mem known
  · rintro ⟨position, ⟨before, after, split, repeats, free⟩, here⟩
    have known := (repeatsSibling_iff_pathAt?_mem plain split free).1 repeats
    rw [split, List.map_append, List.map_cons, here, eq_comm, List.map_eq_append_iff] at paths
    obtain ⟨texts, rest, split', first, paths⟩ := paths
    obtain ⟨path', later, rfl, here', -⟩ := List.map_eq_cons_iff.1 paths
    obtain rfl := Option.some.inj here'
    refine ⟨texts, later, split', ?_, ?_⟩
    · rw [here, ← first] at known
      simpa using known
    · rw [← List.nodup_map_iff (Option.some_injective _), first]
      exact (nodup_pathAt?_iff plain split).2 free

end Plain

end Draft

end BehaviorDiff
