import BehaviorDiff.Proofs.Markup.OpenElements

set_option autoImplicit false

/-!
What an assembly does over the events of a forest. It attaches the drafts of the elements to the
innermost open element and finishes the trees among them, the outer ones last; the numbers of the
trees lie between those given out before and behind, in the order of the opening tags. This holds of
each single element if it holds of what is inside, and of a row of elements one after another.
-/

namespace BehaviorDiff.Markup

/-- Attaches children one after another. -/
def attachAll (children : List Draft) (stack : List Frame) : List Frame :=
  children.foldl (fun stack child => Assembly.attach child stack) stack

theorem attachAll_append (a b : List Draft) (stack : List Frame) :
    attachAll (a ++ b) stack = attachAll b (attachAll a stack) :=
  List.foldl_append

theorem attachAll_inside (children : List Draft) (draft : Draft) (opened : Nat)
    (outer : List Frame) :
    attachAll children (.inside draft opened :: outer) =
      .inside { draft with children := draft.children ++ children } opened :: outer := by
  induction children generalizing draft with
  | nil =>
    cases draft
    rw [List.append_nil]
    rfl
  | cons child rest ih =>
    have next := ih (draft.pushChild child)
    rw [Draft.pushChild, List.append_assoc] at next
    exact next

theorem attachAll_of_notMem {around : List String} {stack : List Frame}
    (frames : Frames around stack) (out : treeTag ∉ around) (children : List Draft) :
    attachAll children stack = stack := by
  induction children with
  | nil => rfl
  | cons child rest ih =>
    change attachAll rest (Assembly.attach child stack) = stack
    rw [frames.attach_of_notMem out, ih]

theorem Frames.attachAll {around : List String} {stack : List Frame} (frames : Frames around stack)
    (children : List Draft) : Frames around (attachAll children stack) := by
  induction children generalizing stack with
  | nil => exact frames
  | cons child rest ih => exact ih (frames.attach child)

/-- What an assembly has done over the events of a forest. -/
structure Grows (forest : List Element) (a b : Assembly) : Prop where
  stack : b.stack = attachAll (draftsOf forest) a.stack
  openTrees : b.openTrees = a.openTrees
  opened : a.opened ≤ b.opened
  finished : ∃ trees : List Finished,
    b.finished.Perm (trees ++ a.finished) ∧
      (trees.map fun tree => (tree.name, tree.root)) = (treesOf forest).map Element.definition ∧
        (trees.Pairwise fun x y => x.opened < y.opened) ∧
          ∀ tree ∈ trees, a.opened < tree.opened ∧ tree.opened ≤ b.opened

namespace Grows
variable {a b c : Assembly}

theorem nil (a : Assembly) : Grows [] a a :=
  ⟨rfl, rfl, Nat.le_refl _, [], .refl _, rfl, .nil, fun _ hm => absurd hm List.not_mem_nil⟩

theorem tracks {forest : List Element} {around : List String} (grown : Grows forest a b)
    (h : Tracks around a) : Tracks around b :=
  ⟨grown.stack ▸ h.frames.attachAll _, grown.openTrees.trans h.openTrees⟩

/-- One element after another: later trees have later numbers. -/
theorem cons {element : Element} {rest : List Element} (first : Grows [element] a b)
    (later : Grows rest b c) : Grows (element :: rest) a c := by
  obtain ⟨trees, perm, values, sorted, bounds⟩ := first.finished
  obtain ⟨trees', perm', values', sorted', bounds'⟩ := later.finished
  refine ⟨?_, later.openTrees.trans first.openTrees, Nat.le_trans first.opened later.opened,
    trees ++ trees', ?_, ?_, ?_, ?_⟩
  · have split : draftsOf (element :: rest) = draftsOf [element] ++ draftsOf rest := by
      cases h : element.isTree <;> simp [draftsOf, h]
    rw [split, attachAll_append, later.stack, first.stack]
  · refine perm'.trans ?_
    rw [List.append_assoc]
    exact (perm.append_left trees').trans (List.perm_append_comm_assoc trees' trees a.finished)
  · simp only [treesOf, List.append_nil] at values
    rw [List.map_append, values, values', treesOf, List.map_append]
  · refine List.pairwise_append.2 ⟨sorted, sorted', fun x hx y hy => ?_⟩
    exact Nat.lt_of_le_of_lt (bounds x hx).2 (bounds' y hy).1
  · intro tree hm
    rcases List.mem_append.1 hm with hm | hm
    · exact ⟨(bounds tree hm).1, Nat.le_trans (bounds tree hm).2 later.opened⟩
    · exact ⟨Nat.lt_of_le_of_lt first.opened (bounds' tree hm).1, (bounds' tree hm).2⟩

end Grows

theorem step_closing_of_stack {a : Assembly} {frame : Frame} {outer : List Frame}
    (h : a.stack = frame :: outer) :
    a.step .closing = .ok ({ a with
      stack := outer
      openTrees := if frame.isTree then a.openTrees - 1 else a.openTrees }.close frame) := by
  rw [Assembly.step, h]
  rfl

theorem run_paired {a b c d : Assembly} {tag : Tag} {inner : List Event}
    (opening : a.step (.opening tag) = .ok b) (run : inner.foldlM Assembly.step b = .ok c)
    (closing : c.step .closing = .ok d) :
    (Event.opening tag :: (inner ++ [Event.closing])).foldlM Assembly.step a = .ok d := by
  rw [List.foldlM_cons, opening]
  change (inner ++ [Event.closing]).foldlM Assembly.step b = .ok d
  rw [List.foldlM_append, run]
  change (c.step .closing >>= pure) = .ok d
  rw [closing]
  rfl

theorem draft_of_read {tag : Tag} {entries : List (String × String)}
    (read : tag.attributes = .ok entries) (children : List Element) :
    (Element.mk tag children).draft = ⟨tag.name, .ofList entries, draftsOf children⟩ := by
  rw [Element.draft, Tag.attributeMap, read]

theorem treesOf_singleton_of_ne {tag : Tag} (other : tag.name ≠ treeTag)
    (children : List Element) : treesOf [.mk tag children] = treesOf children := by
  rw [treesOf, treesOf, List.append_nil, Element.trees, if_neg other]

theorem treesOf_singleton_of_eq {tag : Tag} (tree : tag.name = treeTag)
    (children : List Element) :
    treesOf [.mk tag children] = .mk tag children :: treesOf children := by
  rw [treesOf, treesOf, List.append_nil, Element.trees, if_pos tree]

section Element
variable {around : List String} {a : Assembly} (h : Tracks around a) {tag : Tag}
  {inner : List Event} {children : List Element}
  (inside : ∀ b, Tracks (tag.name :: around) b →
    ∃ c, inner.foldlM Assembly.step b = .ok c ∧ Grows children b c)

include h inside

/-- An element outside of every tree finishes the trees inside it. -/
theorem exists_grown_outside (out : ¬ InTree around tag) :
    ∃ b, (Event.opening tag :: (inner ++ [Event.closing])).foldlM Assembly.step a = .ok b ∧
      Grows [.mk tag children] a b := by
  have step := h.step_opening_outside out
  obtain ⟨c, run, grown⟩ := inside _ (h.of_step_opening step)
  obtain ⟨trees, perm, values, sorted, bounds⟩ := grown.finished
  have other : tag.name ≠ treeTag := (h.skips_iff.2 out).2
  have outer : treeTag ∉ around := fun hm => out (List.mem_cons_of_mem _ hm)
  have stack : c.stack = .outside :: a.stack := by
    rw [grown.stack]
    exact attachAll_of_notMem (.outside h.frames out) out _
  refine ⟨_, run_paired step run (step_closing_of_stack stack), ?_, grown.openTrees, grown.opened,
    trees, perm, ?_, sorted, bounds⟩
  · exact (attachAll_of_notMem h.frames outer _).symm
  · rw [treesOf_singleton_of_ne other, values]

/-- An element in a tree ends with its own draft, when what is inside it has been taken in. -/
theorem exists_closed_inside {entries : List (String × String)}
    (read : tag.attributes = .ok entries) (within : InTree around tag) :
    ∃ c,
      Grows children { a with
        stack := .inside ⟨tag.name, .ofList entries, []⟩ (a.opened + 1) :: a.stack
        opened := a.opened + 1
        openTrees := (tag.name :: around).count treeTag } c ∧
      (Event.opening tag :: (inner ++ [Event.closing])).foldlM Assembly.step a =
        .ok ({ c with
          stack := a.stack
          openTrees := if tag.name = treeTag then c.openTrees - 1 else c.openTrees }.close
            (.inside (Element.mk tag children).draft (a.opened + 1))) := by
  have step := h.step_opening_inside within read
  obtain ⟨c, run, grown⟩ := inside _ (h.of_step_opening step)
  have stack : c.stack = .inside (Element.mk tag children).draft (a.opened + 1) :: a.stack := by
    rw [grown.stack, attachAll_inside, draft_of_read read]
    rfl
  refine ⟨c, grown, ?_⟩
  rw [run_paired step run (step_closing_of_stack stack), Frame.isTree, Element.draft]
  simp only [decide_eq_true_eq]

/-- An element of another name inside a tree is attached to the element around it. -/
theorem exists_grown_inside {entries : List (String × String)}
    (read : tag.attributes = .ok entries) (within : InTree around tag)
    (other : tag.name ≠ treeTag) :
    ∃ b, (Event.opening tag :: (inner ++ [Event.closing])).foldlM Assembly.step a = .ok b ∧
      Grows [.mk tag children] a b := by
  obtain ⟨c, grown, run⟩ := exists_closed_inside h inside read within
  obtain ⟨trees, perm, values, sorted, bounds⟩ := grown.finished
  have name : (Element.mk tag children).draft.tag ≠ treeTag := by
    rw [Element.draft]
    exact other
  have single : draftsOf [Element.mk tag children] = [(Element.mk tag children).draft] := by
    simp [draftsOf, Element.isTree, Element.tag, other]
  have openTrees : c.openTrees = a.openTrees :=
    (grown.openTrees.trans (List.count_cons_of_ne other)).trans h.openTrees.symm
  have opened : a.opened + 1 ≤ c.opened := grown.opened
  rw [Assembly.close, if_neg name, if_neg other] at run
  refine ⟨_, run, ?_, openTrees, Nat.le_of_succ_le opened, trees, perm, ?_, sorted, ?_⟩
  · rw [single]
    rfl
  · rw [treesOf_singleton_of_ne other, values]
  · intro tree hm
    have low : a.opened + 1 < tree.opened := (bounds tree hm).1
    exact ⟨by omega, (bounds tree hm).2⟩

/-- A tree element is finished before the trees inside it, by its number. -/
theorem exists_grown_tree {entries : List (String × String)}
    (read : tag.attributes = .ok entries) (tree : tag.name = treeTag) :
    ∃ b, (Event.opening tag :: (inner ++ [Event.closing])).foldlM Assembly.step a = .ok b ∧
      Grows [.mk tag children] a b := by
  have within : InTree around tag := by
    rw [InTree, tree]
    exact List.mem_cons_self
  obtain ⟨c, grown, run⟩ := exists_closed_inside h inside read within
  obtain ⟨trees, perm, values, sorted, bounds⟩ := grown.finished
  have name : (Element.mk tag children).draft.tag = treeTag := by
    rw [Element.draft]
    exact tree
  have leftOut : draftsOf [Element.mk tag children] = [] := by
    simp [draftsOf, Element.isTree, Element.tag, tree]
  have openTrees : c.openTrees = a.openTrees + 1 := by
    rw [grown.openTrees, h.openTrees, tree, List.count_cons_self]
  have opened : a.opened + 1 ≤ c.opened := grown.opened
  let finished : Finished := ⟨a.opened + 1, Assembly.treeName (Element.mk tag children).draft,
    (Element.mk tag children).draft.build⟩
  rw [Assembly.close, if_pos name, if_pos tree] at run
  refine ⟨_, run, ?_, ?_, Nat.le_of_succ_le opened, finished :: trees, perm.cons finished,
    ?_, ?_, ?_⟩
  · rw [leftOut]
    rfl
  · exact Nat.sub_eq_of_eq_add openTrees
  · rw [treesOf_singleton_of_eq tree, List.map_cons, List.map_cons, values]
    rfl
  · refine List.pairwise_cons.2 ⟨fun later hm => ?_, sorted⟩
    exact (bounds later hm).1
  · intro other hm
    rcases List.mem_cons.1 hm with rfl | hm
    · exact ⟨Nat.lt_succ_self _, opened⟩
    · have low : a.opened + 1 < other.opened := (bounds other hm).1
      exact ⟨by omega, (bounds other hm).2⟩

/-- An element grows an assembly by itself, if what is inside it grows it by the elements inside. -/
theorem exists_grown_element
    (readable : InTree around tag → ∃ entries, tag.attributes = .ok entries) :
    ∃ b, (Event.opening tag :: (inner ++ [Event.closing])).foldlM Assembly.step a = .ok b ∧
      Grows [.mk tag children] a b := by
  by_cases within : InTree around tag
  · obtain ⟨entries, read⟩ := readable within
    by_cases tree : tag.name = treeTag
    · exact exists_grown_tree h inside read tree
    · exact exists_grown_inside h inside read within tree
  · exact exists_grown_outside h inside within

end Element

theorem elementsIn_append_of_spells {events : List Event} {forest : List Element}
    (h : Spells events forest) (around : List String) (after : List Event) :
    elementsIn around (events ++ after) = elementsIn around events ++ elementsIn around after := by
  induction h generalizing around after with
  | nil => rfl
  | single tag _ ih =>
    rw [List.cons_append, elementsIn, elementsIn, ih, List.cons_append]
  | paired tag _ _ ihInner ihRest =>
    rw [List.cons_append, List.append_assoc, elementsIn, elementsIn, ihInner, ihInner,
      List.cons_append, List.cons_append, elementsIn, elementsIn, List.tail_cons, ihRest,
      List.append_assoc]

/-- Over the events of a forest an assembly grows by the forest. -/
theorem exists_grown_of_spells {events : List Event} {forest : List Element}
    (spelled : Spells events forest) {around : List String} {a : Assembly} (h : Tracks around a)
    (readable : Readable around events) :
    ∃ b, events.foldlM Assembly.step a = .ok b ∧ Grows forest a b := by
  induction spelled generalizing around a with
  | nil => exact ⟨a, rfl, .nil a⟩
  | single tag _ ih =>
    -- A single tag is run as an element with nothing inside.
    obtain ⟨here, later⟩ := readable_single_iff.1 readable
    have empty : ∀ b, Tracks (tag.name :: around) b →
        ∃ c, ([] : List Event).foldlM Assembly.step b = .ok c ∧ Grows [] b c :=
      fun b _ => ⟨b, rfl, .nil b⟩
    obtain ⟨b, run, grown⟩ := exists_grown_element h empty here
    obtain ⟨c, run', grown'⟩ := ih (grown.tracks h) later
    refine ⟨c, ?_, grown.cons grown'⟩
    rw [foldlM_single]
    change ((Event.opening tag :: ([] ++ [Event.closing])) ++ _).foldlM Assembly.step a = .ok c
    rw [List.foldlM_append, run]
    exact run'
  | @paired tag inner events children rest spelledInner _ ihInner ihRest =>
    obtain ⟨here, later⟩ := readable_opening_iff.1 readable
    rw [Readable, elementsIn_append_of_spells spelledInner, elementsIn, List.tail_cons] at later
    obtain ⟨readableInner, readableRest⟩ := List.forall_mem_append.1 later
    obtain ⟨b, run, grown⟩ := exists_grown_element h
      (fun b opened => ihInner opened readableInner) here
    obtain ⟨c, run', grown'⟩ := ihRest (grown.tracks h) readableRest
    refine ⟨c, ?_, grown.cons grown'⟩
    have split : Event.opening tag :: (inner ++ Event.closing :: events) =
        (Event.opening tag :: (inner ++ [Event.closing])) ++ events := by simp
    rw [split, List.foldlM_append, run]
    exact run'

end BehaviorDiff.Markup
