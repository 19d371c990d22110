import BehaviorDiff.Proofs.Tree.Chain
import BehaviorDiff.Proofs.Tree.Position

set_option autoImplicit false

/-!
Local edits of a draft. An edit that keeps the tag and the identity of what it is applied to is not
seen elsewhere: every node outside the edited place is built with the same tag, attributes, depth
and path as before. A child that is appended to some node comes last there, so no other node of the
tree changes but for the children of its parent.
-/

namespace BehaviorDiff

namespace Draft

/-- Applies an edit to what stands at a position. -/
def modifyAt : Draft → Position → (Draft → Draft) → Draft
  | draft, [], edit => edit draft
  | draft, index :: below, edit =>
    { draft with children := draft.children.modify index fun child => child.modifyAt below edit }

/-- Takes the last child away. -/
def dropLastChild (draft : Draft) : Draft :=
  { draft with children := draft.children.dropLast }

/-- Appends a child to what stands at a position. -/
def appendAt (draft : Draft) (position : Position) (child : Draft) : Draft :=
  draft.modifyAt position fun inner => inner.pushChild child

/-- Takes the last child at one position away and appends a child at another. -/
def relocate (draft : Draft) (source target : Position) (child : Draft) : Draft :=
  (draft.modifyAt source dropLastChild).appendAt target child

/-- A path names both drafts by one tag and one identity. -/
def SameName (a b : Draft) : Prop := a.tag = b.tag ∧ a.attributes.id? = b.attributes.id?

theorem at?_cons_eq_some_iff {draft found : Draft} {index : Nat} {below : Position} :
    draft.at? (index :: below) = some found ↔
      ∃ child, draft.children[index]? = some child ∧ child.at? below = some found :=
  Option.bind_eq_some_iff

theorem at?_append (draft : Draft) (above below : Position) :
    draft.at? (above ++ below) = (draft.at? above).bind fun top => top.at? below := by
  induction above generalizing draft with
  | nil => rfl
  | cons index above ih =>
    change (draft.children[index]?).bind _ = ((draft.children[index]?).bind _).bind _
    rw [Option.bind_assoc]
    congr 1
    funext child
    exact ih child

theorem SameName.pathStep_eq {a b : Draft} (same : SameName a b) (rank : Nat) :
    pathStep a.tag a.attributes rank = pathStep b.tag b.attributes rank := by
  rw [pathStep, pathStep, same.1, same.2]

theorem SameName.modifyAt {draft inner : Draft} {position : Position} {edit : Draft → Draft}
    (found : draft.at? position = some inner) (same : SameName (edit inner) inner) :
    SameName (draft.modifyAt position edit) draft := by
  cases position with
  | nil =>
    obtain rfl : draft = inner := Option.some.inj found
    exact same
  | cons index below => exact ⟨rfl, rfl⟩

/-- An edit and the edit that takes it back cancel out. -/
theorem modifyAt_modifyAt {draft inner : Draft} {position : Position} {edit back : Draft → Draft}
    (found : draft.at? position = some inner) (cancel : back (edit inner) = inner) :
    (draft.modifyAt position edit).modifyAt position back = draft := by
  induction position generalizing draft with
  | nil =>
    obtain rfl : draft = inner := Option.some.inj found
    exact cancel
  | cons index below ih =>
    obtain ⟨child, here, inside⟩ := at?_cons_eq_some_iff.1 found
    obtain ⟨tag, attributes, children⟩ := draft
    have restored : (children.modify index fun child => child.modifyAt below edit).modify index
        (fun child => child.modifyAt below back) = children := by
      refine List.ext_getElem? fun other => ?_
      rw [List.getElem?_modify, List.getElem?_modify]
      by_cases same : index = other
      · subst same
        have here : children[index]? = some child := here
        simp [here, ih inside]
      · simp [same]
    exact congrArg (Draft.mk tag attributes) restored

/-- What an edit makes of a draft is at the position of the edit, and its children below. -/
theorem at?_modifyAt_append (draft : Draft) (position below : Position) (edit : Draft → Draft) :
    (draft.modifyAt position edit).at? (position ++ below) =
      (draft.at? position).bind fun inner => (edit inner).at? below := by
  induction position generalizing draft with
  | nil => rfl
  | cons index above ih =>
    change ((draft.children.modify index _)[index]?).bind _ =
      ((draft.children[index]?).bind _).bind _
    rw [List.getElem?_modify]
    cases draft.children[index]? with
    | none => rfl
    | some child =>
      simp only [if_true, Option.map_eq_map, Option.map_some, Option.bind_some]
      exact ih child

/-- Outside the edited place every draft keeps its number of children. -/
theorem length_children_modifyAt (draft : Draft) (edit : Draft → Draft)
    {position other : Position} (outside : ¬ position <+: other) :
    ((draft.modifyAt position edit).at? other).map (fun found => found.children.length) =
      (draft.at? other).map fun found => found.children.length := by
  induction position generalizing draft other with
  | nil => exact absurd List.nil_prefix outside
  | cons index below ih =>
    cases other with
    | nil => simp [at?, modifyAt]
    | cons index' below' =>
      change (((draft.children.modify index _)[index']?).bind _).map _ =
        ((draft.children[index']?).bind _).map _
      rw [List.getElem?_modify]
      cases draft.children[index']? with
      | none => rfl
      | some child =>
        by_cases same : index = index'
        · subst same
          have inside : ¬ below <+: below' := fun h => outside ((List.prefix_cons_inj index).2 h)
          simpa using ih child inside
        · simp [same]

/-- The children of a node that is built, by their indices. -/
theorem getElem?_buildChildren (parent : String) (depth : Nat) (earlier : List String)
    (drafts : List Draft) (index : Nat) :
    (buildChildren parent depth earlier drafts)[index]? =
      drafts[index]?.map fun child =>
        child.buildAt (parent ++ "/" ++ pathStep child.tag child.attributes
          (((drafts.take index).map tag).count child.tag + earlier.count child.tag)) depth := by
  induction drafts generalizing earlier index with
  | nil => simp [buildChildren]
  | cons first rest ih =>
    rw [buildChildren]
    cases index with
    | zero => simp
    | succ index =>
      rw [List.getElem?_cons_succ, List.getElem?_cons_succ, ih]
      cases rest[index]? with
      | none => rfl
      | some child =>
        have counted : ((rest.take index).map tag).count child.tag +
              (first.tag :: earlier).count child.tag =
            (((first :: rest).take (index + 1)).map tag).count child.tag +
              earlier.count child.tag := by
          rw [List.take_succ_cons, List.map_cons, List.count_cons, List.count_cons]
          omega
        rw [Option.map_some, Option.map_some, counted]

/-- The path of a child among its siblings, below the path of their parent. -/
def childPath (parent : String) (siblings : List Draft) (index : Nat) (child : Draft) : String :=
  parent ++ "/" ++
    pathStep child.tag child.attributes (((siblings.take index).map tag).count child.tag)

theorem getElem?_children_buildAt (draft : Draft) (path : String) (depth index : Nat) :
    (draft.buildAt path depth).children[index]? =
      draft.children[index]?.map fun child =>
        child.buildAt (childPath path draft.children index child) (depth + 1) := by
  rw [children_buildAt, getElem?_buildChildren]
  rfl

/-- A node is as far below the root as its position is long. -/
theorem depth_of_at? {draft : Draft} {path : String} {depth : Nat} {position : Position}
    {node : Node} (found : (draft.buildAt path depth).at? position = some node) :
    node.depth = depth + position.length := by
  induction position generalizing draft path depth with
  | nil =>
    obtain rfl : draft.buildAt path depth = node := Option.some.inj found
    exact depth_buildAt path depth draft
  | cons index below ih =>
    obtain ⟨child, here, inside⟩ := Node.at?_cons_eq_some_iff.1 found
    rw [getElem?_children_buildAt, Option.map_eq_some_iff] at here
    obtain ⟨inner, -, rfl⟩ := here
    rw [ih inside, List.length_cons, Nat.add_assoc, Nat.add_comm 1]

theorem childPath_congr {siblings siblings' : List Draft} {child child' : Draft}
    (tags : siblings.map tag = siblings'.map tag) (same : SameName child child') (parent : String)
    (index : Nat) :
    childPath parent siblings index child = childPath parent siblings' index child' := by
  have ranks : ((siblings.take index).map tag).count child.tag =
      ((siblings'.take index).map tag).count child'.tag := by
    rw [List.map_take, List.map_take, tags, same.1]
  rw [childPath, childPath, ranks, same.pathStep_eq]

/-- An edit below a child that keeps names changes no path among the children. -/
theorem getElem?_children_buildAt_modifyAt {draft child inner : Draft} {index : Nat}
    {below : Position} {edit : Draft → Draft} (here : draft.children[index]? = some child)
    (inside : child.at? below = some inner) (same : SameName (edit inner) inner) (path : String)
    (depth other : Nat) :
    ((draft.modifyAt (index :: below) edit).buildAt path depth).children[other]? =
      draft.children[other]?.map fun sibling =>
        (if index = other then sibling.modifyAt below edit else sibling).buildAt
          (childPath path draft.children other sibling) (depth + 1) := by
  have tags : (draft.children.modify index fun child => child.modifyAt below edit).map tag =
      draft.children.map tag := by
    refine List.ext_getElem? fun i => ?_
    rw [List.getElem?_map, List.getElem?_map, List.getElem?_modify]
    by_cases h : index = i
    · subst h
      simp [here, (same.modifyAt inside).1]
    · simp [h]
  rw [getElem?_children_buildAt]
  change (draft.children.modify index _)[other]?.map _ = _
  rw [List.getElem?_modify]
  by_cases h : index = other
  · subst h
    have name := childPath_congr tags (same.modifyAt inside) path index
    simp only [here, if_true, Option.map_eq_map, Option.map_some]
    exact congrArg (fun path => some ((child.modifyAt below edit).buildAt path (depth + 1))) name
  · cases draft.children[other]? with
    | none => rfl
    | some sibling =>
      have name := childPath_congr tags (⟨rfl, rfl⟩ : SameName sibling sibling) path other
      simp only [h, if_false, Option.map_eq_map, Option.map_some]
      exact congrArg (fun path => some (sibling.buildAt path (depth + 1))) name

/-- A draft inside another is built somewhere below it. An edit that keeps its name keeps that
place, and outside the edited place all nodes stay the same but for their children. -/
theorem exists_buildAt_of_at? {draft inner : Draft} {position : Position} {edit : Draft → Draft}
    (found : draft.at? position = some inner) (same : SameName (edit inner) inner) (path : String)
    (depth : Nat) :
    ∃ path' depth',
      (draft.buildAt path depth).at? position = some (inner.buildAt path' depth') ∧
      ((draft.modifyAt position edit).buildAt path depth).at? position =
        some ((edit inner).buildAt path' depth') ∧
      ∀ other, ¬ position <+: other →
        (((draft.modifyAt position edit).buildAt path depth).at? other).map Node.alone =
          ((draft.buildAt path depth).at? other).map Node.alone := by
  induction position generalizing draft path depth with
  | nil =>
    obtain rfl : draft = inner := Option.some.inj found
    exact ⟨path, depth, rfl, rfl, fun other outside => absurd List.nil_prefix outside⟩
  | cons index below ih =>
    obtain ⟨child, here, inside⟩ := at?_cons_eq_some_iff.1 found
    have old := getElem?_children_buildAt draft path depth
    have new := getElem?_children_buildAt_modifyAt here inside same path depth
    obtain ⟨path', depth', before, after, elsewhere⟩ :=
      ih inside (childPath path draft.children index child) (depth + 1)
    refine ⟨path', depth', ?_, ?_, ?_⟩
    · rw [Node.at?_cons, old, here]
      exact before
    · rw [Node.at?_cons, new, here, Option.map_some, if_pos rfl]
      exact after
    · intro other outside
      cases other with
      | nil => simp [Node.at?, Node.alone, modifyAt]
      | cons index' below' =>
        rw [Node.at?_cons, Node.at?_cons, old, new]
        by_cases h : index = index'
        · subst h
          have deeper : ¬ below <+: below' := fun h => outside ((List.prefix_cons_inj index).2 h)
          rw [here, Option.map_some, Option.map_some, if_pos rfl]
          exact elsewhere below' deeper
        · simp only [h, if_false]

/-- A child that is appended comes behind the children that are there and leaves them as they
are. -/
theorem getElem?_children_buildAt_pushChild (draft child : Draft) (path : String)
    (depth index : Nat) :
    ((draft.pushChild child).buildAt path depth).children[index]? =
      if index = draft.children.length then
        some (child.buildAt (childPath path draft.children index child) (depth + 1))
      else (draft.buildAt path depth).children[index]? := by
  have siblings (h : index ≤ draft.children.length) (sibling : Draft) :
      childPath path (draft.pushChild child).children index sibling =
        childPath path draft.children index sibling := by
    rw [childPath, childPath, pushChild, List.take_append_of_le_length h]
  rw [getElem?_children_buildAt, getElem?_children_buildAt]
  rcases Nat.lt_trichotomy index draft.children.length with h | h | h
  · have kept : (draft.pushChild child).children[index]? = draft.children[index]? :=
      List.getElem?_append_left h
    rw [if_neg (Nat.ne_of_lt h), kept]
    simp only [siblings (Nat.le_of_lt h)]
  · have here : (draft.pushChild child).children[index]? = some child := by simp [pushChild, h]
    rw [if_pos h, here, Option.map_some, siblings (Nat.le_of_eq h)]
  · have short : draft.children.length ≤ index := Nat.le_of_lt h
    have short' : (draft.pushChild child).children.length ≤ index := by
      rw [pushChild, List.length_append, List.length_singleton]
      omega
    rw [if_neg (Nat.ne_of_gt h), List.getElem?_eq_none short, List.getElem?_eq_none short']
    rfl

/-- A child that is appended to a draft inside another is built behind its siblings. Outside of it
all nodes stay the same but for their children. -/
theorem exists_build_appendAt {draft inner : Draft} {position : Position}
    (found : draft.at? position = some inner) (child : Draft) :
    ∃ path depth,
      draft.build.at? position = some (inner.buildAt path depth) ∧
      (∀ below, (draft.appendAt position child).build.at?
          (position ++ inner.children.length :: below) =
        (child.buildAt (childPath path inner.children inner.children.length child)
          (depth + 1)).at? below) ∧
      ∀ other, ¬ position ++ [inner.children.length] <+: other →
        ((draft.appendAt position child).build.at? other).map Node.alone =
          (draft.build.at? other).map Node.alone := by
  let edit (inner : Draft) : Draft := inner.pushChild child
  have same : SameName (edit inner) inner := ⟨rfl, rfl⟩
  have root : (draft.appendAt position child).tag = draft.tag := (same.modifyAt found).1
  obtain ⟨path, depth, before, after, elsewhere⟩ := exists_buildAt_of_at? found same draft.tag 0
  rw [build, build, root]
  refine ⟨path, depth, before, fun below => ?_, fun other outside => ?_⟩
  · rw [Node.at?_append]
    change (((draft.modifyAt position edit).buildAt draft.tag 0).at? position).bind _ = _
    rw [after, Option.bind_some, Node.at?_cons, getElem?_children_buildAt_pushChild, if_pos rfl,
      Option.bind_some]
  · by_cases inside : position <+: other
    · obtain ⟨below, rfl⟩ := inside
      rw [Node.at?_append, Node.at?_append, before]
      change ((((draft.modifyAt position edit).buildAt draft.tag 0).at? position).bind _).map _ = _
      rw [after, Option.bind_some, Option.bind_some]
      cases below with
      | nil => simp [Node.at?, Node.alone, edit, pushChild]
      | cons index below =>
        have apart : index ≠ inner.children.length := by
          rintro rfl
          exact outside ⟨below, by simp⟩
        rw [Node.at?_cons, Node.at?_cons, getElem?_children_buildAt_pushChild, if_neg apart]
    · exact elsewhere other inside

end Draft

end BehaviorDiff
