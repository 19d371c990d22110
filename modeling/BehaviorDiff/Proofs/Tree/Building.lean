import BehaviorDiff.Proofs.Tree.Edit

set_option autoImplicit false

/-!
What building adds to a draft. Tags, attributes and children are taken over as they are, in their
order; kinds, depths and paths are new, and forgetting them gives the draft back. A path is handed
down from parent to child: the child adds its tag and its identity, or else the number of siblings
of its tag that stand before it, whether these have an identity or not.
-/

namespace BehaviorDiff

namespace Draft

mutual

/-- Forgetting what building has added gives the draft back, wherever it was built. -/
theorem draft_buildAt :
    (path : String) → (depth : Nat) → (draft : Draft) → (draft.buildAt path depth).draft = draft
  | path, depth, ⟨tag, attributes, children⟩ => by
    rw [buildAt, Node.draft, drafts_buildChildren path (depth + 1) [] children]

private theorem drafts_buildChildren :
    (parent : String) → (depth : Nat) → (earlier : List String) → (drafts : List Draft) →
      Node.drafts (buildChildren parent depth earlier drafts) = drafts
  | _, _, _, [] => rfl
  | parent, depth, earlier, child :: rest => by
    rw [buildChildren, Node.drafts, draft_buildAt, drafts_buildChildren]

end

end Draft

theorem Step.text_to_of_id {child : Node} {id : String} (value : child.attribute? "ID" = some id)
    (present : id ≠ "") (before : List String) :
    (Step.to child before).text = child.tag ++ "[@ID='" ++ id ++ "']" := by
  have identity : child.attributes.id? = some id :=
    Option.filter_eq_some_iff.2 ⟨value, decide_eq_true present⟩
  rw [← pathStep_eq_text, Draft.pathStep, identity]

theorem Step.text_to_of_no_id {child : Node}
    (absent : ∀ id, child.attribute? "ID" = some id → id = "") (before : List String) :
    (Step.to child before).text =
      child.tag ++ "[" ++ toString (before.count child.tag) ++ "]" := by
  have identity : child.attributes.id? = none := by
    refine Option.filter_eq_none_iff.2 fun id value => ?_
    rw [absent id value]
    decide
  rw [← pathStep_eq_text, Draft.pathStep, identity]

theorem Node.count_map_tag (nodes : List Node) (tag : String) :
    (nodes.map Node.tag).count tag = nodes.countP fun node => node.tag = tag := by
  rw [List.count, List.countP_map]
  rfl

/-- Building adds positions to a draft and nothing else: forgetting them gives the draft back. A
kind is that of the tag, a depth is the number of steps from the root, the path of the root is its
tag, and the path of any other node is that of its parent with its own tag and identity, or else
with the number of earlier siblings of its tag. -/
theorem build_adds_positions (draft : Draft) :
    draft.build.draft = draft ∧
    (∀ position node, draft.build.at? position = some node →
      node.kind = .classify node.tag ∧ node.depth = position.length) ∧
    draft.build.path = draft.build.tag ∧
    ∀ above index child, draft.build.at? (above ++ [index]) = some child →
      ∃ parent, draft.build.at? above = some parent ∧ parent.children[index]? = some child ∧
        (∀ id, child.attribute? "ID" = some id → id ≠ "" →
          child.path = parent.path ++ "/" ++ child.tag ++ "[@ID='" ++ id ++ "']") ∧
        ((∀ id, child.attribute? "ID" = some id → id = "") →
          child.path = parent.path ++ "/" ++ child.tag ++ "[" ++
            toString ((parent.children.take index).countP fun sibling => sibling.tag = child.tag) ++
              "]") := by
  refine ⟨Draft.draft_buildAt draft.tag 0 draft, fun position node found => ⟨?_, ?_⟩,
    path_build draft, fun above index child found => ?_⟩
  · exact kind_of_mem_build (Node.mem_preorder_iff.2 ⟨position, found⟩)
  · have deep : node.depth = 0 + position.length := Draft.depth_of_at? found
    rw [deep, Nat.zero_add]
  · rw [Node.at?_append] at found
    obtain ⟨parent, hp, found⟩ := Option.bind_eq_some_iff.1 found
    obtain ⟨child', here, same⟩ := Node.at?_cons_eq_some_iff.1 found
    obtain rfl : child' = child := Option.some.inj same
    have path := path_of_getElem? (Node.mem_preorder_iff.2 ⟨above, hp⟩) here
    refine ⟨parent, hp, here, fun id value present => ?_, fun absent => ?_⟩
    · rw [path, Step.text_to_of_id value present]
      simp only [String.append_assoc]
    · rw [path, Step.text_to_of_no_id absent, Node.count_map_tag]
      simp only [String.append_assoc]

example : ((((Draft.new "Sequence").pushChild ((Draft.new "Dock").setAttribute "ID" "a")).pushChild
      (Draft.new "Dock")).build.preorder.map Node.path) =
    ["Sequence", "Sequence/Dock[@ID='a']", "Sequence/Dock[1]"] := by decide

end BehaviorDiff
