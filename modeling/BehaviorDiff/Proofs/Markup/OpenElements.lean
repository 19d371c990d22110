import BehaviorDiff.Proofs.Markup.Elements

set_option autoImplicit false

/-!
What an assembly knows of the elements that are open. From the outside in, its frames are those of
elements outside of every tree up to the first tree element, and drafts of the elements' names from
there on; the number of open trees is the number of open elements that define one. Every event keeps
this, and so an opening tag is looked at exactly if it defines a tree or lies inside one.
-/

namespace BehaviorDiff.Markup

/-- The frames of open elements of some names, innermost first. -/
inductive Frames : List String → List Frame → Prop
  | nil : Frames [] []
  | outside {name : String} {around : List String} {stack : List Frame} :
      Frames around stack → treeTag ∉ name :: around →
        Frames (name :: around) (.outside :: stack)
  | inside {draft : Draft} {opened : Nat} {around : List String} {stack : List Frame} :
      Frames around stack → treeTag ∈ draft.tag :: around →
        Frames (draft.tag :: around) (.inside draft opened :: stack)

/-- An assembly stands inside open elements of some names, innermost first. -/
structure Tracks (around : List String) (assembly : Assembly) : Prop where
  frames : Frames around assembly.stack
  openTrees : assembly.openTrees = around.count treeTag

theorem tracks_start : Tracks [] .start := ⟨.nil, rfl⟩

theorem Frames.length_eq {around : List String} {stack : List Frame} (h : Frames around stack) :
    stack.length = around.length := by
  induction h with
  | nil => rfl
  | outside _ _ ih => rw [List.length_cons, List.length_cons, ih]
  | inside _ _ ih => rw [List.length_cons, List.length_cons, ih]

/-- Outside of every tree nothing is attached. -/
theorem Frames.attach_of_notMem {around : List String} {stack : List Frame}
    (h : Frames around stack) (out : treeTag ∉ around) (child : Draft) :
    Assembly.attach child stack = stack := by
  cases h with
  | nil => rfl
  | outside _ _ => rfl
  | inside _ within => exact absurd within out

/-- Attaching a child keeps the names of the open elements. -/
theorem Frames.attach {around : List String} {stack : List Frame} (h : Frames around stack)
    (child : Draft) : Frames around (Assembly.attach child stack) := by
  cases h with
  | nil => exact .nil
  | outside below out => exact .outside below out
  | @inside draft _ _ _ below within =>
    have pushed : treeTag ∈ (draft.pushChild child).tag :: _ := within
    exact .inside below pushed

private theorem foldl_setAttribute (name : String) (entries : List (String × String))
    (attributes : Attributes) :
    entries.foldl (fun draft entry => draft.setAttribute entry.1 entry.2)
        (⟨name, attributes, []⟩ : Draft) =
      ⟨name, entries.foldl (fun m entry => m.insert entry.1 entry.2) attributes, []⟩ := by
  induction entries generalizing attributes with
  | nil => rfl
  | cons entry rest ih => exact ih (attributes.insert entry.1 entry.2)

theorem draftOf_eq (name : String) (entries : List (String × String)) :
    Assembly.draftOf name entries = ⟨name, .ofList entries, []⟩ :=
  foldl_setAttribute name entries .empty

/-- A single tag is an opening tag with its closing tag right behind it. -/
theorem step_single (a : Assembly) (tag : Tag) :
    a.step (.single tag) = (a.step (.opening tag)).bind fun b => b.step .closing := by
  simp only [Assembly.step, bind, Except.bind, pure, Except.pure]
  cases a.frame tag with
  | error e => rfl
  | ok pair =>
    obtain ⟨frame, opened⟩ := pair
    cases tree : frame.isTree <;> simp [tree]

namespace Tracks
variable {around : List String} {a : Assembly}

/-- No tree is open around a tag, nor opened by it, exactly if it lies outside of every tree. -/
theorem skips_iff (h : Tracks around a) {tag : Tag} :
    (a.openTrees = 0 ∧ tag.name ≠ treeTag) ↔ ¬ InTree around tag := by
  rw [h.openTrees, List.count_eq_zero, InTree, List.mem_cons, not_or, and_comm, ne_comm]

/-- The frame of a tag outside of every tree. -/
theorem frame_outside (h : Tracks around a) {tag : Tag} (out : ¬ InTree around tag) :
    a.frame tag = .ok (.outside, a.opened) :=
  if_pos (h.skips_iff.2 out)

/-- The frame of a tag that defines a tree or lies inside one. -/
theorem frame_inside (h : Tracks around a) {tag : Tag} (within : InTree around tag) :
    a.frame tag = tag.attributes.map fun entries =>
      (.inside (Assembly.draftOf tag.name entries) (a.opened + 1), a.opened + 1) :=
  if_neg fun skips => h.skips_iff.1 skips within

theorem step_opening_outside (h : Tracks around a) {tag : Tag} (out : ¬ InTree around tag) :
    a.step (.opening tag) = .ok { a with stack := .outside :: a.stack } := by
  simp only [Assembly.step, h.frame_outside out]
  rfl

theorem step_opening_unread (h : Tracks around a) {tag : Tag} (within : InTree around tag)
    {error : AttributeError} (unread : tag.attributes = .error error) :
    a.step (.opening tag) = .error error := by
  simp only [Assembly.step, h.frame_inside within, unread]
  rfl

theorem step_opening_inside (h : Tracks around a) {tag : Tag} (within : InTree around tag)
    {entries : List (String × String)} (read : tag.attributes = .ok entries) :
    a.step (.opening tag) = .ok { a with
      stack := .inside ⟨tag.name, .ofList entries, []⟩ (a.opened + 1) :: a.stack
      opened := a.opened + 1
      openTrees := (tag.name :: around).count treeTag } := by
  simp only [Assembly.step, h.frame_inside within, read, Except.map, draftOf_eq, bind,
    Except.bind, pure, Except.pure, Except.ok.injEq, Assembly.mk.injEq, true_and, and_true]
  rw [h.openTrees, List.count_cons, Frame.isTree]
  by_cases tree : tag.name = treeTag <;> simp [tree]

/-- Behind an opening tag the assembly stands inside the element that it opens. -/
theorem of_step_opening (h : Tracks around a) {tag : Tag} {b : Assembly}
    (step : a.step (.opening tag) = .ok b) : Tracks (tag.name :: around) b := by
  by_cases within : InTree around tag
  · cases read : tag.attributes with
    | error error =>
      rw [h.step_opening_unread within read] at step
      cases step
    | ok entries =>
      rw [h.step_opening_inside within read] at step
      cases step
      have named : treeTag ∈ (⟨tag.name, .ofList entries, []⟩ : Draft).tag :: around := within
      exact ⟨.inside h.frames named, rfl⟩
  · rw [h.step_opening_outside within] at step
    cases step
    refine ⟨.outside h.frames within, ?_⟩
    have other : tag.name ≠ treeTag := (h.skips_iff.2 within).2
    rw [List.count_cons_of_ne other]
    exact h.openTrees

/-- A closing tag always goes through, and it leaves the innermost open element. -/
theorem exists_step_closing (h : Tracks around a) :
    ∃ b, a.step .closing = .ok b ∧ Tracks around.tail b := by
  obtain ⟨stack, finished, openTrees, opened⟩ := a
  obtain ⟨frames, trees⟩ := h
  change Frames around stack at frames
  change openTrees = around.count treeTag at trees
  subst trees
  cases frames with
  | nil => exact ⟨_, rfl, .nil, rfl⟩
  | @outside name outer below frames out =>
    have other : name ≠ treeTag := fun e => out (e ▸ List.mem_cons_self)
    exact ⟨_, rfl, frames, List.count_cons_of_ne other⟩
  | @inside draft _ outer below frames within =>
    by_cases tree : draft.tag = treeTag
    · refine ⟨_, rfl, ?_⟩
      rw [Assembly.close, if_pos tree]
      refine ⟨frames, ?_⟩
      simp [Frame.isTree, tree]
    · refine ⟨_, rfl, ?_⟩
      rw [Assembly.close, if_neg tree]
      refine ⟨frames.attach draft, ?_⟩
      simp [Frame.isTree, tree]

/-- An opening tag goes through if it is skipped or its attributes can be read. -/
theorem exists_step_opening (h : Tracks around a) {tag : Tag}
    (readable : InTree around tag → ∃ entries, tag.attributes = .ok entries) :
    ∃ b, a.step (.opening tag) = .ok b := by
  by_cases within : InTree around tag
  · obtain ⟨entries, read⟩ := readable within
    exact ⟨_, h.step_opening_inside within read⟩
  · exact ⟨_, h.step_opening_outside within⟩

theorem readable_of_step_opening (h : Tracks around a) {tag : Tag} {b : Assembly}
    (step : a.step (.opening tag) = .ok b) (within : InTree around tag) :
    ∃ entries, tag.attributes = .ok entries := by
  cases read : tag.attributes with
  | ok entries => exact ⟨entries, rfl⟩
  | error error =>
    rw [h.step_opening_unread within read] at step
    cases step

end Tracks

/-- A run takes a single tag for an opening tag and its closing tag. -/
theorem foldlM_single (a : Assembly) (tag : Tag) (rest : List Event) :
    (Event.single tag :: rest).foldlM Assembly.step a =
      (Event.opening tag :: .closing :: rest).foldlM Assembly.step a := by
  rw [List.foldlM_cons, List.foldlM_cons, step_single]
  cases a.step (.opening tag) with
  | error e => rfl
  | ok b => rfl

theorem readable_opening_iff {around : List String} {tag : Tag} {rest : List Event} :
    Readable around (.opening tag :: rest) ↔
      (InTree around tag → ∃ entries, tag.attributes = .ok entries) ∧
        Readable (tag.name :: around) rest :=
  List.forall_mem_cons

theorem readable_single_iff {around : List String} {tag : Tag} {rest : List Event} :
    Readable around (.single tag :: rest) ↔
      (InTree around tag → ∃ entries, tag.attributes = .ok entries) ∧ Readable around rest :=
  List.forall_mem_cons

/-- A run over readable elements goes through, and it leaves open what the events leave open. -/
theorem Tracks.exists_run {around : List String} {a : Assembly} (h : Tracks around a)
    {events : List Event} (readable : Readable around events) {count : Nat}
    (matched : openAfter around.length events = some count) :
    ∃ names b, events.foldlM Assembly.step a = .ok b ∧ Tracks names b ∧ names.length = count := by
  induction events generalizing around a with
  | nil => exact ⟨around, a, rfl, h, Option.some.inj matched⟩
  | cons event rest ih =>
    cases event with
    | opening tag =>
      obtain ⟨here, later⟩ := readable_opening_iff.1 readable
      obtain ⟨b, step⟩ := h.exists_step_opening here
      rw [List.foldlM_cons, step]
      exact ih (h.of_step_opening step) later matched
    | single tag =>
      obtain ⟨here, later⟩ := readable_single_iff.1 readable
      obtain ⟨b, step⟩ := h.exists_step_opening here
      obtain ⟨c, step', h'⟩ := (h.of_step_opening step).exists_step_closing
      rw [foldlM_single, List.foldlM_cons, step]
      change ∃ names d, (b.step .closing >>= fun c => rest.foldlM Assembly.step c) = .ok d ∧ _
      rw [step']
      exact ih h' later matched
    | closing =>
      obtain ⟨b, step, h'⟩ := h.exists_step_closing
      rw [List.foldlM_cons, step]
      cases around with
      | nil => cases matched
      | cons name outer => exact ih h' readable matched

/-- A run that goes through has read the attributes of every element that it looks at. -/
theorem Tracks.readable_of_run {around : List String} {a b : Assembly} (h : Tracks around a)
    {events : List Event} (run : events.foldlM Assembly.step a = .ok b) :
    Readable around events := by
  induction events generalizing around a with
  | nil => exact fun _ hm => absurd hm List.not_mem_nil
  | cons event rest ih =>
    cases event with
    | opening tag =>
      rw [List.foldlM_cons] at run
      cases step : a.step (.opening tag) with
      | error e =>
        rw [step] at run
        cases run
      | ok c =>
        rw [step] at run
        exact readable_opening_iff.2
          ⟨h.readable_of_step_opening step, ih (h.of_step_opening step) run⟩
    | single tag =>
      rw [foldlM_single, List.foldlM_cons] at run
      cases step : a.step (.opening tag) with
      | error e =>
        rw [step] at run
        cases run
      | ok c =>
        rw [step] at run
        change (c.step .closing >>= fun d => rest.foldlM Assembly.step d) = .ok b at run
        obtain ⟨d, step', h'⟩ := (h.of_step_opening step).exists_step_closing
        rw [step'] at run
        exact readable_single_iff.2 ⟨h.readable_of_step_opening step, ih h' run⟩
    | closing =>
      rw [List.foldlM_cons] at run
      obtain ⟨c, step, h'⟩ := h.exists_step_closing
      rw [step] at run
      exact ih h' run

end BehaviorDiff.Markup
