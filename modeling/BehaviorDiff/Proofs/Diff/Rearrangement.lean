import BehaviorDiff.Proofs.Diff.Reported
import BehaviorDiff.Proofs.Tree.Address
import BehaviorDiff.Proofs.Tree.Position

set_option autoImplicit false

/-!
What a comparison without a change says of the trees. A path holds the tags, identities and ranks on
the way to a node, but a rank counts siblings of one tag only, and an identity stands in its place.
So the trees have the same tags and values, and corresponding nodes have the same children under the
same steps; the order of siblings that have different tags or an identity is not seen.
-/

namespace BehaviorDiff

/-- Nodes of one tag and with one value for every attribute, a missing attribute being empty. -/
structure Alike (a b : Node) : Prop where
  tag : a.tag = b.tag
  value : ∀ name, a.attributeOrEmpty name = b.attributeOrEmpty name

/-- Trees that have nodes at the same positions, which are alike. -/
def SamePlaces (old new : Node) : Prop :=
  ∀ position, Option.Rel Alike (old.at? position) (new.at? position)

/-- The children of a node, each with the step that leads to it. -/
def Node.row (node : Node) : List (Step × Node) :=
  node.children.mapIdx fun index child =>
    (Step.to child ((node.children.take index).map Node.tag), child)

/-- Trees that are the same but for the order of siblings: their roots are alike and have the same
steps to children, and the children under each step are again the same in this sense. -/
inductive Rearranged : Node → Node → Prop
  | intro {old new : Node} : Alike old new →
      (old.row.map Prod.fst).Perm (new.row.map Prod.fst) →
      (∀ step child child', (step, child) ∈ old.row → (step, child') ∈ new.row →
        Rearranged child child') →
      Rearranged old new

theorem Alike.symm {a b : Node} (alike : Alike a b) : Alike b a where
  tag := alike.tag.symm
  value name := (alike.value name).symm

theorem Rearranged.symm {old new : Node} (same : Rearranged old new) : Rearranged new old := by
  induction same with
  | intro alike steps _ ih =>
    exact .intro alike.symm steps.symm fun step child child' hm hm' => ih step child' child hm' hm

theorem Rearranged.alike {old new : Node} (same : Rearranged old new) : Alike old new := by
  cases same with
  | intro alike _ _ => exact alike

theorem Node.id?_eq (node : Node) :
    node.attributes.id? = (some (node.attributeOrEmpty idAttribute)).filter (· ≠ "") :=
  node.attributes.id?_eq

theorem Alike.id?_eq {a b : Node} (alike : Alike a b) : a.attributes.id? = b.attributes.id? := by
  rw [a.id?_eq, b.id?_eq, alike.value]

theorem Node.mem_row_iff {node child : Node} {step : Step} :
    (step, child) ∈ node.row ↔ ∃ index : Nat, node.children[index]? = some child ∧
      step = Step.to child ((node.children.take index).map Node.tag) := by
  rw [row, List.mem_mapIdx]
  constructor
  · rintro ⟨index, bound, same⟩
    obtain ⟨rfl, rfl⟩ := Prod.mk.inj same
    exact ⟨index, List.getElem?_eq_getElem bound, rfl⟩
  · rintro ⟨index, here, rfl⟩
    obtain ⟨bound, rfl⟩ := List.getElem?_eq_some_iff.1 here
    exact ⟨index, bound, rfl⟩

theorem Node.mem_preorder_of_mem_row {parent child : Node} {step : Step}
    (hm : (step, child) ∈ parent.row) : child ∈ parent.preorder := by
  obtain ⟨index, here, -⟩ := mem_row_iff.1 hm
  exact mem_preorder_of_getElem? here

/-- Alike children whose steps read the same behind two paths have parents of one path, and their
steps are the same. -/
theorem eq_of_append_step {child child' : Node} (alike : Alike child child')
    {before before' : List String} {parent parent' : String}
    (same : parent ++ "/" ++ (Step.to child before).text =
      parent' ++ "/" ++ (Step.to child' before').text) :
    parent = parent' ∧ Step.to child before = Step.to child' before' := by
  rw [← pathStep_eq_text, ← pathStep_eq_text, ← alike.tag] at same
  obtain ⟨parents, ranks⟩ := path_eq_of_append_pathStep alike.id?_eq same
  refine ⟨parents, ?_⟩
  rw [Step.to, Step.to, ← alike.id?_eq, ← alike.tag]
  cases identity : child.attributes.id? with
  | some id => rfl
  | none => rw [ranks identity]

/-- No path below a root reads like the tag of its last step. -/
theorem append_step_ne_tag (parent : String) (step : Step) :
    parent ++ "/" ++ step.text ≠ step.tag := by
  intro same
  have slash : 0 < "/".length := by decide
  have lengths := congrArg String.length same
  rw [Step.text] at lengths
  cases mark : step.mark with
  | identity id =>
    simp only [mark, String.length_append] at lengths
    omega
  | rank count =>
    simp only [mark, String.length_append] at lengths
    omega

section Built
variable {draft : Draft} {parent child : Node} (hp : parent ∈ draft.build.preorder)

include hp

/-- The path of a child is that of its parent and its own step. -/
theorem path_of_mem_row {step : Step} (hm : (step, child) ∈ parent.row) :
    child.path = parent.path ++ "/" ++ step.text := by
  obtain ⟨index, here, rfl⟩ := Node.mem_row_iff.1 hm
  exact path_of_getElem? hp here

/-- The path of a child is longer than its tag. -/
theorem path_ne_tag_of_mem_row {step : Step} (hm : (step, child) ∈ parent.row) :
    child.path ≠ child.tag := by
  rw [path_of_mem_row hp hm]
  obtain ⟨index, -, rfl⟩ := Node.mem_row_iff.1 hm
  exact append_step_ne_tag _ _

/-- Where no path occurs twice, no two children of a node stand under one step. -/
theorem nodup_steps (distinct : (draft.build.preorder.map Node.path).Nodup) :
    (parent.row.map Prod.fst).Nodup := by
  obtain ⟨position, found⟩ := Node.mem_preorder_iff.1 hp
  have place {index : Nat} {child : Node} (here : parent.children[index]? = some child) :
      draft.build.at? (position ++ [index]) = some child := by
    rw [Node.at?_append, found]
    exact Node.at?_cons_eq_some_iff.2 ⟨child, here, rfl⟩
  rw [List.nodup_iff_getElem?_ne_getElem?]
  intro i j before bound same
  rw [List.length_map, Node.row, List.length_mapIdx] at bound
  obtain ⟨a, ha⟩ : ∃ a, parent.children[i]? = some a :=
    ⟨_, List.getElem?_eq_getElem (Nat.lt_trans before bound)⟩
  obtain ⟨b, hb⟩ : ∃ b, parent.children[j]? = some b := ⟨_, List.getElem?_eq_getElem bound⟩
  rw [Node.row, List.getElem?_map, List.getElem?_map, List.getElem?_mapIdx, List.getElem?_mapIdx,
    ha, hb] at same
  have steps := Option.some.inj same
  have paths : a.path = b.path := by
    rw [path_of_mem_row hp (Node.mem_row_iff.2 ⟨i, ha, rfl⟩),
      path_of_mem_row hp (Node.mem_row_iff.2 ⟨j, hb, rfl⟩)]
    exact congrArg (fun step => parent.path ++ "/" ++ step.text) steps
  have positions := Node.position_eq_of_path_eq distinct (place ha) (place hb) paths
  have indices : i = j := by simpa using positions
  omega

end Built

section Trees
variable {old new : Draft}

/-- In trees that are built, all attributes counting, two nodes differ exactly if they are not
alike: their kinds follow from their tags. -/
theorem isEmpty_contentDelta_iff_alike {a b : Node} (ha : a ∈ old.build.preorder)
    (hb : b ∈ new.build.preorder) :
    (contentDelta .all a b).isEmpty = true ↔ Alike a b := by
  rw [isEmpty_contentDelta_iff, kind_of_mem_build ha, kind_of_mem_build hb]
  constructor
  · rintro ⟨tag, -, values⟩
    exact ⟨tag, fun name => (values name).resolve_left Bool.false_ne_true⟩
  · rintro ⟨tag, value⟩
    exact ⟨tag, congrArg NodeKind.classify tag, fun name => .inr (value name)⟩

/-- If a tree covers another, nodes of one path have children under the same steps: a child cannot
be found anywhere else. -/
theorem exists_mem_row_of_covers (covers : Covers .all old.build.preorder new.build.preorder)
    (newDistinct : (new.build.preorder.map Node.path).Nodup) {a b child : Node} {step : Step}
    (ha : a ∈ old.build.preorder) (hb : b ∈ new.build.preorder) (path : a.path = b.path)
    (hm : (step, child) ∈ a.row) : ∃ child', (step, child') ∈ b.row := by
  have hc := Node.mem_preorder_trans ha (Node.mem_preorder_of_mem_row hm)
  have below := path_of_mem_row ha hm
  obtain ⟨found, hf, same, empty⟩ := covers child hc
  have alike := (isEmpty_contentDelta_iff_alike hc hf).1 empty
  obtain ⟨place, -, rfl⟩ := Node.mem_row_iff.1 hm
  rcases Node.eq_root_or_exists_parent hf with rfl | ⟨parent, hp, index, here⟩
  · have root : child.path = child.tag := by rw [same, path_build, alike.tag]
    exact absurd root (path_ne_tag_of_mem_row ha hm)
  · have there : (Step.to found ((parent.children.take index).map Node.tag), found) ∈ parent.row :=
      Node.mem_row_iff.2 ⟨index, here, rfl⟩
    obtain ⟨parents, steps⟩ := eq_of_append_step alike
      (below.symm.trans (same.trans (path_of_mem_row hp there)))
    obtain rfl : parent = b :=
      List.inj_on_of_nodup_map newDistinct hp hb (parents.symm.trans path)
    exact ⟨found, steps ▸ there⟩

/-- If a tree covers another, the roots have one path: a child cannot be found at the root. -/
theorem path_root_eq_of_covers (covers : Covers .all old.build.preorder new.build.preorder) :
    old.build.path = new.build.path := by
  have root := Node.self_mem_preorder old.build
  obtain ⟨found, hf, same, empty⟩ := covers old.build root
  have alike := (isEmpty_contentDelta_iff_alike root hf).1 empty
  rcases Node.eq_root_or_exists_parent hf with rfl | ⟨parent, hp, index, here⟩
  · exact same
  · have short : found.path = found.tag := by rw [← same, path_build, alike.tag]
    exact absurd short (path_ne_tag_of_mem_row hp (Node.mem_row_iff.2 ⟨index, here, rfl⟩))

/-- Trees that cover each other are the same but for the order of siblings. -/
theorem rearranged_of_covers (covers : Covers .all old.build.preorder new.build.preorder)
    (covers' : Covers .all new.build.preorder old.build.preorder)
    (oldDistinct : (old.build.preorder.map Node.path).Nodup)
    (newDistinct : (new.build.preorder.map Node.path).Nodup) (a : Node) :
    ∀ b, a ∈ old.build.preorder → b ∈ new.build.preorder → a.path = b.path → Rearranged a b := by
  induction a using Node.inductionOnChildren with
  | node a ih =>
    intro b ha hb path
    have alike : Alike a b := by
      obtain ⟨found, hf, same, empty⟩ := covers a ha
      obtain rfl : found = b := List.inj_on_of_nodup_map newDistinct hf hb (same.symm.trans path)
      exact (isEmpty_contentDelta_iff_alike ha hb).1 empty
    refine .intro alike ?_ fun step child child' hm hm' => ?_
    · refine (List.perm_ext_iff_of_nodup (nodup_steps ha oldDistinct)
        (nodup_steps hb newDistinct)).2 fun step => ?_
      simp only [List.mem_map, Prod.exists, exists_and_right, exists_eq_right]
      constructor
      · rintro ⟨child, hm⟩
        exact exists_mem_row_of_covers covers newDistinct ha hb path hm
      · rintro ⟨child, hm⟩
        exact exists_mem_row_of_covers covers' oldDistinct hb ha path.symm hm
    · obtain ⟨index, here, -⟩ := Node.mem_row_iff.1 hm
      refine ih child (List.mem_of_getElem? here) child' ?_ ?_ ?_
      · exact Node.mem_preorder_trans ha (Node.mem_preorder_of_mem_row hm)
      · exact Node.mem_preorder_trans hb (Node.mem_preorder_of_mem_row hm')
      · rw [path_of_mem_row ha hm, path_of_mem_row hb hm', path]

/-- Trees that are the same but for the order of siblings cover each other, if their roots have one
path. -/
theorem Rearranged.covers {a b : Node} (same : Rearranged a b) (ha : a ∈ old.build.preorder)
    (hb : b ∈ new.build.preorder) (path : a.path = b.path) :
    Covers .all a.preorder b.preorder := by
  induction same with
  | @intro a b alike steps below ih =>
    intro node hn
    rcases Node.mem_preorder_iff_eq_or_below.1 hn with rfl | ⟨index, child, here, hn⟩
    · exact ⟨b, b.self_mem_preorder, path,
        (isEmpty_contentDelta_iff_alike ha hb).2 alike⟩
    · have hm := Node.mem_row_iff.2 ⟨index, here, rfl⟩
      obtain ⟨⟨step, child'⟩, hm', rfl⟩ :=
        List.mem_map.1 (steps.mem_iff.1 (List.mem_map_of_mem hm))
      have hc := Node.mem_preorder_of_mem_row hm
      have hc' := Node.mem_preorder_of_mem_row hm'
      have paths : child.path = child'.path := by
        rw [path_of_mem_row ha hm, path_of_mem_row hb hm', path]
      obtain ⟨after, hn', same⟩ := ih _ child child' hm hm'
        (Node.mem_preorder_trans ha hc) (Node.mem_preorder_trans hb hc') paths node hn
      exact ⟨after, Node.mem_preorder_trans hc' hn', same⟩

end Trees

/-- Built trees without repeated paths can be compared, and the comparison finds no change exactly
if they are the same but for the order of siblings that have different tags or an identity. -/
theorem compareTrees_unchanged_iff_rearranged (old new : Draft)
    (oldDistinct : (old.build.preorder.map Node.path).Nodup)
    (newDistinct : (new.build.preorder.map Node.path).Nodup) :
    ∃ changes, compareTrees .all old.build new.build = .ok changes ∧
      ((∀ change ∈ changes, change.kind = .unchanged) ↔ Rearranged old.build new.build) := by
  obtain ⟨changes, compared⟩ := exists_changes_of_nodup .all oldDistinct newDistinct
  refine ⟨changes, compared, ?_⟩
  rw [forall_unchanged_iff compared]
  have root := Node.self_mem_preorder old.build
  have root' := Node.self_mem_preorder new.build
  constructor
  · rintro ⟨covers, covers'⟩
    exact rearranged_of_covers covers covers' oldDistinct newDistinct _ _ root root'
      (path_root_eq_of_covers covers)
  · intro same
    have path : old.build.path = new.build.path := by
      rw [path_build, path_build, same.alike.tag]
    exact ⟨same.covers root root' path, same.symm.covers root' root path.symm⟩

/-- A condition on a door and an action through it, in the order in which they are run. -/
def guardedEntry : Draft :=
  ((Draft.new "Sequence").pushChild
      ((Draft.new "Condition").setAttribute "ID" "DoorOpen")).pushChild
    ((Draft.new "Action").setAttribute "ID" "Enter")

/-- The same two nodes with the action first. -/
def unguardedEntry : Draft :=
  ((Draft.new "Sequence").pushChild ((Draft.new "Action").setAttribute "ID" "Enter")).pushChild
    ((Draft.new "Condition").setAttribute "ID" "DoorOpen")

private theorem exists_unchanged_entry : ∃ changes,
    compareTrees .all guardedEntry.build unguardedEntry.build = .ok changes ∧
      ∀ change ∈ changes, change.kind = .unchanged :=
  ⟨_, compareTrees_eq_ok_iff.2 ⟨⟨guardedEntry.build.preorder, by decide⟩,
    ⟨unguardedEntry.build.preorder, by decide⟩, rfl, rfl, rfl⟩, by decide⟩

theorem compareTrees_unchanged_iff_entry :
    (guardedEntry.build.preorder.map Node.path).Nodup ∧
      (unguardedEntry.build.preorder.map Node.path).Nodup ∧
        Rearranged guardedEntry.build unguardedEntry.build := by
  have distinct : (guardedEntry.build.preorder.map Node.path).Nodup := by decide
  have distinct' : (unguardedEntry.build.preorder.map Node.path).Nodup := by decide
  obtain ⟨changes, compared, unchanged⟩ := exists_unchanged_entry
  obtain ⟨changes', compared', unchanged_iff⟩ :=
    compareTrees_unchanged_iff_rearranged _ _ distinct distinct'
  obtain rfl : changes = changes' := Except.ok.inj (compared.symm.trans compared')
  exact ⟨distinct, distinct', unchanged_iff.1 unchanged⟩

/-- Two siblings can be swapped without a change being found. -/
theorem unchanged_entry_not_samePlaces :
    (guardedEntry.build.preorder.map Node.path).Nodup ∧
      (unguardedEntry.build.preorder.map Node.path).Nodup ∧
        (∃ changes, compareTrees .all guardedEntry.build unguardedEntry.build = .ok changes ∧
          ∀ change ∈ changes, change.kind = .unchanged) ∧
        ¬ SamePlaces guardedEntry.build unguardedEntry.build := by
  refine ⟨by decide, by decide, exists_unchanged_entry, fun same => ?_⟩
  cases same [0] with
  | some alike => exact absurd alike.tag (by decide)

end BehaviorDiff
