import BehaviorDiff.Proofs.Markup.Document
import BehaviorDiff.Proofs.Tree.Statistics

set_option autoImplicit false

/-!
What becomes of the elements while a document is read. The frames inside trees lie on top of those
outside, and the lowest of them is a tree; so when another element inside a tree ends, the frame
below it takes it in as a child, and the number of open trees never falls below zero. No node is
lost: those of the open drafts and of the finished trees are always as many as the elements that
have begun and define a tree or lie inside one.
-/

namespace BehaviorDiff.Markup

/-- From the outside in, the frames are outside of every tree up to the first tree, and inside from
there on; the innermost frame comes first. -/
def Layered (stack : List Frame) : Prop :=
  ∃ inner outer, stack = inner ++ outer ∧ (∀ frame ∈ outer, frame = .outside) ∧
    (∀ frame ∈ inner, frame ≠ .outside) ∧ ∀ frame, inner.getLast? = some frame → frame.isTree = true

/-- The number of nodes that an open element holds. -/
def Frame.nodes : Frame → Nat
  | outside => 0
  | inside draft _ => draft.tally fun _ => true

/-- The number of nodes in open elements and in finished trees. -/
def Assembly.nodes (assembly : Assembly) : Nat :=
  (assembly.stack.map Frame.nodes).sum +
    (assembly.finished.map fun tree => tree.root.size).sum

/-- The number of elements that begin in a sequence of events, inside elements of some names, and
define a tree or lie inside one. -/
def begunInTrees (around : List String) (events : List Event) : Nat :=
  (elementsIn around events).countP fun element => InTree element.1 element.2

theorem layered_of_outside {stack : List Frame} (outside : ∀ frame ∈ stack, frame = .outside) :
    Layered stack := ⟨[], stack, rfl, outside, nofun, nofun⟩

namespace Frames
variable {around : List String} {stack : List Frame}

theorem countP_isTree (h : Frames around stack) :
    stack.countP Frame.isTree = around.count treeTag := by
  induction h with
  | nil => rfl
  | @outside name _ _ _ out ih =>
    have other : name ≠ treeTag := fun same => out (same ▸ List.mem_cons_self)
    rw [List.countP_cons, ih, List.count_cons_of_ne other]
    rfl
  | @inside draft _ _ _ _ _ ih =>
    rw [List.countP_cons, ih, List.count_cons]
    congr 1

theorem eq_outside_of_notMem (h : Frames around stack) (out : treeTag ∉ around) :
    ∀ frame ∈ stack, frame = .outside := by
  induction h with
  | nil => exact fun _ hm => absurd hm List.not_mem_nil
  | outside _ _ ih =>
    exact List.forall_mem_cons.2 ⟨rfl, ih fun hm => out (List.mem_cons_of_mem _ hm)⟩
  | inside _ within _ => exact absurd within out

theorem exists_inside (h : Frames around stack) (within : treeTag ∈ around) :
    ∃ parent rank below, stack = .inside parent rank :: below := by
  cases h with
  | nil => exact absurd within List.not_mem_nil
  | outside _ out => exact absurd within out
  | inside _ _ => exact ⟨_, _, _, rfl⟩

theorem exists_parent {draft : Draft} {opened : Nat}
    (h : Frames around (.inside draft opened :: stack)) (other : draft.tag ≠ treeTag) :
    ∃ parent rank below, stack = .inside parent rank :: below := by
  cases h with
  | inside below within =>
    exact below.exists_inside ((List.mem_cons.1 within).resolve_left other.symm)

theorem layered (h : Frames around stack) : Layered stack := by
  induction h with
  | nil => exact layered_of_outside nofun
  | outside below out _ =>
    exact layered_of_outside ((Frames.outside below out).eq_outside_of_notMem out)
  | @inside draft opened around stack below within ih =>
    obtain ⟨inner, outer, rfl, outside, inside, lowest⟩ := ih
    refine ⟨.inside draft opened :: inner, outer, rfl, outside,
      List.forall_mem_cons.2 ⟨nofun, inside⟩, fun frame last => ?_⟩
    cases inner with
    | cons top rest =>
      rw [List.getLast?_cons_cons] at last
      exact lowest frame last
    | nil =>
      -- The first frame inside is a tree: otherwise the frame below it would be inside, too.
      obtain rfl : Frame.inside draft opened = frame := Option.some.inj last
      refine decide_eq_true (Decidable.by_contra fun other => ?_)
      have top : Frames (draft.tag :: around) (.inside draft opened :: outer) :=
        .inside below within
      obtain ⟨parent, rank, rest, rfl⟩ := top.exists_parent other
      cases outside _ List.mem_cons_self

end Frames

theorem openAfter_append (count : Nat) (before after : List Event) :
    openAfter count (before ++ after) =
      (openAfter count before).bind fun left => openAfter left after := by
  induction before generalizing count with
  | nil => rfl
  | cons event rest ih =>
    cases event with
    | opening tag => exact ih (count + 1)
    | single tag => exact ih count
    | closing =>
      cases count with
      | zero => rfl
      | succ outer => exact ih outer

namespace Tracks
variable {around : List String} {a : Assembly} (h : Tracks around a)

include h

theorem nodes_of_step_opening {tag : Tag} {b : Assembly} (step : a.step (.opening tag) = .ok b) :
    b.nodes = a.nodes + if InTree around tag then 1 else 0 := by
  by_cases within : InTree around tag
  · obtain ⟨entries, read⟩ := h.readable_of_step_opening step within
    rw [h.step_opening_inside within read] at step
    cases step
    have single : (⟨tag.name, .ofList entries, []⟩ : Draft).tally (fun _ => true) = 1 := rfl
    simp only [if_pos within, Assembly.nodes, List.map_cons, List.sum_cons, Frame.nodes, single]
    omega
  · rw [h.step_opening_outside within] at step
    cases step
    simp only [if_neg within, Assembly.nodes, List.map_cons, List.sum_cons, Frame.nodes]
    omega

/-- An element inside a tree that defines none itself goes to the element around it. -/
theorem exists_attached {draft : Draft} {opened : Nat} {outer : List Frame}
    (top : a.stack = .inside draft opened :: outer) (other : draft.tag ≠ treeTag) :
    ∃ parent rank below, outer = .inside parent rank :: below ∧
      a.step .closing =
        .ok { a with stack := .inside (parent.pushChild draft) rank :: below } := by
  have frames := h.frames
  rw [top] at frames
  obtain ⟨parent, rank, below, rfl⟩ := frames.exists_parent other
  refine ⟨parent, rank, below, rfl, ?_⟩
  rw [step_closing_of_stack top, Assembly.close, if_neg other, Frame.isTree, decide_eq_false other]
  rfl

theorem exists_attached_single {tag : Tag} {draft : Draft} {opened count : Nat}
    (begun : a.frame tag = .ok (.inside draft opened, count)) (other : draft.tag ≠ treeTag) :
    ∃ parent rank below, a.stack = .inside parent rank :: below ∧
      a.step (.single tag) = .ok { a with
        stack := .inside (parent.pushChild draft) rank :: below
        opened := count } := by
  have run : a.step (.single tag) =
      .ok ({ a with opened := count }.close (.inside draft opened)) := by
    rw [Assembly.step, begun]
    rfl
  by_cases within : InTree around tag
  · rw [h.frame_inside within] at begun
    cases read : tag.attributes with
    | error error =>
      rw [read] at begun
      cases begun
    | ok entries =>
      rw [read] at begun
      cases begun
      rw [draftOf_eq] at other run ⊢
      have deeper : treeTag ∈ around := (List.mem_cons.1 within).resolve_left (Ne.symm other)
      obtain ⟨parent, rank, below, top⟩ := h.frames.exists_inside deeper
      refine ⟨parent, rank, below, top, ?_⟩
      rw [run, Assembly.close, if_neg other, top]
      rfl
  · rw [h.frame_outside within] at begun
    cases begun

theorem nodes_of_step_closing {b : Assembly} (step : a.step .closing = .ok b) :
    b.nodes = a.nodes := by
  -- The nodes of an element that ends go to a finished tree or to the element around it.
  cases top : a.stack with
  | nil =>
    rw [Assembly.step, top] at step
    cases step
    rfl
  | cons frame outer =>
    cases frame with
    | outside =>
      rw [step_closing_of_stack top] at step
      cases step
      simp only [Assembly.nodes, Assembly.close, top, List.map_cons, List.sum_cons, Frame.nodes]
      omega
    | inside draft opened =>
      by_cases tree : draft.tag = treeTag
      · rw [step_closing_of_stack top, Assembly.close, if_pos tree] at step
        cases step
        simp only [Assembly.nodes, top, List.map_cons, List.sum_cons, Frame.nodes,
          Draft.size_build]
        omega
      · obtain ⟨parent, rank, below, rfl, closed⟩ := h.exists_attached top tree
        rw [closed] at step
        cases step
        simp only [Assembly.nodes, top, List.map_cons, List.sum_cons, Frame.nodes,
          Draft.tally_pushChild]
        omega

end Tracks

/-- A run holds one node more for every element in a tree that it begins. -/
theorem Tracks.nodes_of_run {around : List String} {a b : Assembly} (h : Tracks around a)
    {events : List Event} (run : events.foldlM Assembly.step a = .ok b) :
    b.nodes = a.nodes + begunInTrees around events := by
  induction events generalizing around a with
  | nil =>
    cases run
    rfl
  | cons event rest ih =>
    cases event with
    | opening tag =>
      rw [List.foldlM_cons] at run
      cases step : a.step (.opening tag) with
      | error e =>
        rw [step] at run
        cases run
      | ok c =>
        rw [step] at run
        rw [ih (h.of_step_opening step) run, h.nodes_of_step_opening step]
        simp only [begunInTrees, elementsIn, List.countP_cons, decide_eq_true_eq]
        omega
    | single tag =>
      rw [foldlM_single, List.foldlM_cons] at run
      cases step : a.step (.opening tag) with
      | error e =>
        rw [step] at run
        cases run
      | ok c =>
        rw [step] at run
        change (c.step .closing >>= fun d => rest.foldlM Assembly.step d) = .ok b at run
        have inside := h.of_step_opening step
        obtain ⟨d, step', h'⟩ := inside.exists_step_closing
        rw [step'] at run
        rw [ih h' run, inside.nodes_of_step_closing step', h.nodes_of_step_opening step]
        simp only [begunInTrees, elementsIn, List.tail_cons, List.countP_cons, decide_eq_true_eq]
        omega
    | closing =>
      rw [List.foldlM_cons] at run
      obtain ⟨c, step, h'⟩ := h.exists_step_closing
      rw [step] at run
      rw [ih h' run, h.nodes_of_step_closing step]
      rfl

/-- Wherever the reading of a document stands, the counter of open trees is the number of open
elements that define one, so it can be lowered when such an element ends; the elements outside of
every tree lie below the first tree, and those inside from there on. An element in a tree that
defines none itself is attached to the element below it when it ends, whether with a tag of its own
or with the tag that begins it. So as many nodes are held in drafts and finished trees as elements
in trees have begun. -/
theorem run_attaches_elements {before after : List Event}
    (matched : openAfter 0 (before ++ after) ≠ none) {a : Assembly}
    (run : before.foldlM Assembly.step .start = .ok a) :
    a.openTrees = a.stack.countP Frame.isTree ∧
    Layered a.stack ∧
    (∀ rest, after = .closing :: rest → ∃ frame outer, a.stack = frame :: outer ∧
      (frame.isTree = true → 0 < a.openTrees)) ∧
    (∀ draft opened outer, a.stack = .inside draft opened :: outer → draft.tag ≠ treeTag →
      ∃ parent rank below, outer = .inside parent rank :: below ∧
        a.step .closing =
          .ok { a with stack := .inside (parent.pushChild draft) rank :: below }) ∧
    (∀ tag draft opened count, a.frame tag = .ok (.inside draft opened, count) →
      draft.tag ≠ treeTag →
        ∃ parent rank below, a.stack = .inside parent rank :: below ∧
          a.step (.single tag) = .ok { a with
            stack := .inside (parent.pushChild draft) rank :: below
            opened := count }) ∧
    a.nodes = begunInTrees [] before := by
  rw [openAfter_append] at matched
  obtain ⟨left, opened⟩ : ∃ left, openAfter 0 before = some left := by
    cases opened : openAfter 0 before with
    | none => exact absurd (by rw [opened]; rfl) matched
    | some left => exact ⟨left, rfl⟩
  rw [opened, Option.bind_some] at matched
  obtain ⟨names, b, run', tracks, length⟩ :=
    tracks_start.exists_run (tracks_start.readable_of_run run) opened
  obtain rfl : a = b := Except.ok.inj (run.symm.trans run')
  have openTrees : a.openTrees = a.stack.countP Frame.isTree :=
    tracks.openTrees.trans tracks.frames.countP_isTree.symm
  refine ⟨openTrees, tracks.frames.layered, fun rest next => ?_,
    fun draft opened outer top other => tracks.exists_attached top other,
    fun tag draft opened count begun other => tracks.exists_attached_single begun other,
    (tracks_start.nodes_of_run run).trans (Nat.zero_add _)⟩
  subst next
  cases top : a.stack with
  | nil =>
    have none : left = 0 := by rw [← length, ← tracks.frames.length_eq, top]; rfl
    rw [none] at matched
    exact absurd rfl matched
  | cons frame outer =>
    refine ⟨frame, outer, rfl, fun tree => ?_⟩
    rw [openTrees, top, List.countP_cons_of_pos tree]
    exact Nat.succ_pos _

/-- In the middle of a document the element inside the outer tree, with a tree of its own inside, is
still open. -/
theorem run_attaches_nestedTrees :
    openAfter 0 nestedTrees.events ≠ none ∧
    ∃ a, (nestedTrees.events.take 4).foldlM Assembly.step .start = .ok a ∧
      a.stack.length = 3 ∧ a.stack.countP Frame.isTree = 1 ∧ a.nodes = 3 ∧
      ∃ parent rank below, a.stack.tail = .inside parent rank :: below := by
  have matched : openAfter 0 (nestedTrees.events.take 4 ++ nestedTrees.events.drop 4) ≠ none := by
    decide
  obtain ⟨a, run, draft, opened, outer, top, other, length, trees⟩ :
      ∃ a, (nestedTrees.events.take 4).foldlM Assembly.step .start = .ok a ∧
        ∃ draft opened outer, a.stack = .inside draft opened :: outer ∧ draft.tag ≠ treeTag ∧
          a.stack.length = 3 ∧ a.openTrees = 1 :=
    ⟨_, rfl, _, _, _, rfl, by decide, rfl, rfl⟩
  obtain ⟨count, -, -, attached, -, nodes⟩ := run_attaches_elements matched run
  obtain ⟨parent, rank, below, rfl, -⟩ := attached draft opened outer top other
  refine ⟨by decide, a, run, length, count.symm.trans trees, nodes.trans (by decide), parent, rank,
    below, ?_⟩
  rw [top]
  rfl

end BehaviorDiff.Markup
