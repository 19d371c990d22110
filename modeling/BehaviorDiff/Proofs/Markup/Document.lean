import BehaviorDiff.Proofs.Markup.Forest

set_option autoImplicit false

/-!
Reading a document from a stream of events against reading it off the forest that they spell. The
finished trees, sorted by their numbers, are the tree elements in the order of their opening tags.
So a stream is read exactly if it does not fail, every element in a tree is readable and nothing
stays open, and then the document is that of its forest.
-/

namespace BehaviorDiff.Markup

/-- The document that a stream of events describes. -/
def EventStream.document (stream : EventStream) : Except DocumentError Document :=
  stream.definitions.map Document.ofList

theorem parseDocument_eq (text : String) : parseDocument text = (eventsOf text).document := rfl

private theorem eq_of_opened_eq {trees : List Finished}
    (sorted : trees.Pairwise fun x y => x.opened < y.opened) {x y : Finished} (hx : x ∈ trees)
    (hy : y ∈ trees) (same : x.opened = y.opened) : x = y := by
  induction sorted with
  | nil => exact absurd hx List.not_mem_nil
  | @cons first rest before _ ih =>
    rcases List.mem_cons.1 hx with rfl | restX
    · rcases List.mem_cons.1 hy with rfl | restY
      · rfl
      · have later := before y restY
        omega
    · rcases List.mem_cons.1 hy with rfl | restY
      · have later := before x restX
        omega
      · exact ih restX restY

/-- Trees with ascending numbers are what sorting makes of them, whatever their order. -/
theorem mergeSort_eq_of_perm {finished trees : List Finished} (perm : finished.Perm trees)
    (sorted : trees.Pairwise fun x y => x.opened < y.opened) :
    (finished.mergeSort fun x y => x.opened ≤ y.opened) = trees := by
  have ascending : (finished.mergeSort fun x y => x.opened ≤ y.opened).Pairwise
      fun x y => decide (x.opened ≤ y.opened) = true := by
    refine List.pairwise_mergeSort (fun x y z hxy hyz => ?_) (fun x y => ?_) finished
    · rw [decide_eq_true_eq] at hxy hyz ⊢
      exact Nat.le_trans hxy hyz
    · rw [Bool.or_eq_true, decide_eq_true_eq, decide_eq_true_eq]
      exact Nat.le_total x.opened y.opened
  have same := (List.mergeSort_perm finished fun x y => x.opened ≤ y.opened).trans perm
  refine List.Perm.eq_of_pairwise (fun x y hx hy hxy hyx => ?_) ascending ?_ same
  · rw [decide_eq_true_eq] at hxy hyx
    exact eq_of_opened_eq sorted (same.subset hx) hy (Nat.le_antisymm hxy hyx)
  · exact sorted.imp fun less => decide_eq_true (Nat.le_of_lt less)

/-- Behind the events of a forest nothing is open, and the definitions are those of its trees. -/
theorem definitions_of_grown {forest : List Element} {b : Assembly}
    (grown : Grows forest .start b) :
    b.stack = [] ∧ b.definitions = (treesOf forest).map Element.definition := by
  refine ⟨?_, ?_⟩
  · rw [grown.stack]
    exact attachAll_of_notMem .nil List.not_mem_nil _
  · obtain ⟨trees, perm, values, sorted, -⟩ := grown.finished
    rw [Assembly.start, List.append_nil] at perm
    rw [Assembly.definitions, mergeSort_eq_of_perm perm sorted, values]

theorem document_eq_ok_iff {stream : EventStream} {document : Document} :
    stream.document = .ok document ↔ ∃ b, stream.events.foldlM Assembly.step .start = .ok b ∧
      stream.failure = none ∧ b.stack = [] ∧ document = .ofList b.definitions := by
  obtain ⟨events, failure⟩ := stream
  rw [EventStream.document, EventStream.definitions]
  cases events.foldlM Assembly.step .start with
  | error e =>
    constructor
    · intro h
      cases h
    · rintro ⟨b, h, -⟩
      cases h
  | ok b =>
    cases failure with
    | some error =>
      constructor
      · intro h
        cases h
      · rintro ⟨b', -, h, -⟩
        cases h
    | none =>
      change Except.map Document.ofList (if b.stack.isEmpty then .ok b.definitions
        else .error (DocumentError.unclosed b.stack.length)) = .ok document ↔ _
      cases left : b.stack with
      | nil =>
        constructor
        · intro h
          exact ⟨b, rfl, rfl, left, (Except.ok.inj h).symm⟩
        · rintro ⟨b', h, -, -, rfl⟩
          cases h
          rfl
      | cons frame rest =>
        constructor
        · intro h
          cases h
        · rintro ⟨b', h, -, closed, -⟩
          cases h
          rw [left] at closed
          cases closed

/-- Taking the attributes of an opening tag outside of every tree away changes nothing. -/
theorem Tracks.step_conceal {around : List String} {a : Assembly} (h : Tracks around a)
    (tag : Tag) : a.step (.opening (tag.conceal around)) = a.step (.opening tag) := by
  by_cases within : InTree around tag
  · rw [Tag.conceal, if_pos within]
  · have concealed : ¬ InTree around ⟨tag.name, .ok []⟩ := within
    rw [Tag.conceal, if_neg within, h.step_opening_outside concealed, h.step_opening_outside within]

/-- A run looks at no attribute outside of the trees. -/
theorem Tracks.foldlM_conceal {around : List String} {a : Assembly} (h : Tracks around a)
    (events : List Event) :
    (conceal around events).foldlM Assembly.step a = events.foldlM Assembly.step a := by
  induction events generalizing around a with
  | nil => rfl
  | cons event rest ih =>
    cases event with
    | opening tag =>
      rw [conceal, List.foldlM_cons, List.foldlM_cons, h.step_conceal]
      cases step : a.step (.opening tag) with
      | error e => rfl
      | ok b => exact ih (h.of_step_opening step)
    | single tag =>
      rw [conceal, foldlM_single, foldlM_single, List.foldlM_cons, List.foldlM_cons, h.step_conceal]
      cases step : a.step (.opening tag) with
      | error e => rfl
      | ok b =>
        obtain ⟨c, step', h'⟩ := (h.of_step_opening step).exists_step_closing
        change (b.step .closing >>= _) = (b.step .closing >>= _)
        rw [step']
        exact ih h'
    | closing =>
      obtain ⟨b, step, h'⟩ := h.exists_step_closing
      rw [conceal, List.foldlM_cons, List.foldlM_cons, step]
      exact ih h'

/-- Two streams that differ only in attributes outside of the trees describe the same document, or
fail alike. -/
theorem document_eq_of_conceal {stream other : EventStream}
    (alike : conceal [] other.events = conceal [] stream.events)
    (failure : other.failure = stream.failure) : other.document = stream.document := by
  obtain ⟨events, failure⟩ := stream
  obtain ⟨events', failure'⟩ := other
  cases failure
  have run : events'.foldlM Assembly.step .start = events.foldlM Assembly.step .start := by
    rw [← tracks_start.foldlM_conceal events', ← tracks_start.foldlM_conceal events]
    exact congrArg (fun es => es.foldlM Assembly.step .start) alike
  rw [EventStream.document, EventStream.document, EventStream.definitions, EventStream.definitions,
    run]

/-- A single tag and an opening tag with its closing tag give the same result. -/
theorem document_single (before after : List Event) (tag : Tag) (failure : Option ReadError) :
    (EventStream.mk (before ++ .single tag :: after) failure).document =
      (EventStream.mk (before ++ .opening tag :: .closing :: after) failure).document := by
  have run : (before ++ Event.single tag :: after).foldlM Assembly.step .start =
      (before ++ Event.opening tag :: .closing :: after).foldlM Assembly.step .start := by
    rw [List.foldlM_append, List.foldlM_append]
    exact congrArg _ (funext fun a => foldlM_single a tag after)
  rw [EventStream.document, EventStream.document, EventStream.definitions, EventStream.definitions,
    run]

/-- A stream is read exactly if it does not fail, what lies in trees is readable and nothing stays
open. -/
theorem exists_document_iff {stream : EventStream} (matched : openAfter 0 stream.events ≠ none) :
    (∃ document, stream.document = .ok document) ↔
      stream.failure = none ∧ Readable [] stream.events ∧ openAfter 0 stream.events = some 0 := by
  constructor
  · rintro ⟨document, read⟩
    obtain ⟨b, run, failure, closed, -⟩ := document_eq_ok_iff.1 read
    have readable := tracks_start.readable_of_run run
    obtain ⟨count, left⟩ := Option.ne_none_iff_exists'.1 matched
    obtain ⟨names, c, run', tracks, length⟩ := tracks_start.exists_run readable left
    cases run.symm.trans run'
    have same := tracks.frames.length_eq
    rw [closed, length] at same
    exact ⟨failure, readable, left.trans (congrArg some same.symm)⟩
  · rintro ⟨failure, readable, closed⟩
    obtain ⟨forest, spelled⟩ := exists_spells_iff.2 closed
    obtain ⟨b, run, grown⟩ := exists_grown_of_spells spelled tracks_start readable
    exact ⟨_, document_eq_ok_iff.2 ⟨b, run, failure, (definitions_of_grown grown).1, rfl⟩⟩

/-- The document of a stream is that of the forest that its events spell. -/
theorem document_eq_of_spells {stream : EventStream} {document : Document} {forest : List Element}
    (spelled : Spells stream.events forest) (read : stream.document = .ok document) :
    document = .ofList ((treesOf forest).map Element.definition) := by
  obtain ⟨b, run, -, -, rfl⟩ := document_eq_ok_iff.1 read
  obtain ⟨c, run', grown⟩ :=
    exists_grown_of_spells spelled tracks_start (tracks_start.readable_of_run run)
  cases run.symm.trans run'
  rw [(definitions_of_grown grown).2]

/-- A text is read exactly if its events do not fail, what lies in trees is readable and nothing
stays open. -/
theorem exists_parseDocument_iff (text : String) :
    (∃ document, parseDocument text = .ok document) ↔ (eventsOf text).failure = none ∧
      Readable [] (eventsOf text).events ∧ openAfter 0 (eventsOf text).events = some 0 := by
  rw [parseDocument_eq]
  exact exists_document_iff (openAfter_eventsOf_ne_none text)

/-- A stream whose closing tags close elements is read exactly if it does not fail, what lies in
trees is readable and nothing stays open; its document is that of the one forest that its events
spell, a later tree of a name in the place of an earlier one. Attributes outside of the trees do not
count, nor does it whether an element without content has one tag or two. -/
theorem document_refines_forest (stream : EventStream)
    (matched : openAfter 0 stream.events ≠ none) :
    ((∃ document, stream.document = .ok document) ↔
      stream.failure = none ∧ Readable [] stream.events ∧ openAfter 0 stream.events = some 0) ∧
    (∀ document, stream.document = .ok document →
      ∃ forest, Spells stream.events forest ∧
        (∀ other, Spells stream.events other → other = forest) ∧
        document = .ofList ((treesOf forest).map Element.definition) ∧
        document.names = (((treesOf forest).map Element.definition).map Prod.fst).eraseDups ∧
        ∀ name, document.get? name =
          ((treesOf forest).map Element.definition).reverse.lookup name) ∧
    (∀ other : EventStream, conceal [] other.events = conceal [] stream.events →
      other.failure = stream.failure → other.document = stream.document) ∧
    ∀ before tag after, stream.events = before ++ .single tag :: after →
      (EventStream.mk (before ++ .opening tag :: .closing :: after) stream.failure).document =
        stream.document := by
  refine ⟨exists_document_iff matched, fun document read => ?_, fun other => document_eq_of_conceal,
    fun before tag after same => ?_⟩
  · obtain ⟨-, -, closed⟩ := (exists_document_iff matched).1 ⟨document, read⟩
    obtain ⟨forest, spelled⟩ := exists_spells_iff.2 closed
    obtain rfl := document_eq_of_spells spelled read
    exact ⟨forest, spelled, fun other spelled' => spelled'.unique spelled, rfl,
      Document.names_ofList _, Document.get?_ofList _⟩
  · rw [← document_single, ← same]

/-- Below an element whose attributes cannot be read: a tree with a tree of its own name inside, and
a tree without a name. -/
def nestedTrees : EventStream where
  events := [.opening ⟨"root", .error (.malformed 5 .noEquals)⟩,
    .opening ⟨treeTag, .ok [("ID", "Main")]⟩, .opening ⟨"Sequence", .ok []⟩,
    .single ⟨treeTag, .ok [("ID", "Main")]⟩, .closing, .closing, .single ⟨treeTag, .ok []⟩,
    .closing]
  failure := none

theorem document_nestedTrees :
    openAfter 0 nestedTrees.events ≠ none ∧ ∃ document, nestedTrees.document = .ok document ∧
      document.names = ["Main", "MainTree"] ∧
        (document.get? "Main").map (fun root => root.children.length) = some 0 := by
  have matched : openAfter 0 nestedTrees.events ≠ none := by decide
  have readable : Readable [] nestedTrees.events := by
    intro element hm within
    simp only [nestedTrees, elementsIn, List.mem_cons, List.not_mem_nil, or_false] at hm
    rcases hm with rfl | rfl | rfl | rfl | rfl
    · exact absurd within (by decide)
    all_goals exact ⟨_, rfl⟩
  obtain ⟨ok_iff, refines, -⟩ := document_refines_forest nestedTrees matched
  obtain ⟨document, read⟩ := ok_iff.2 ⟨rfl, readable, by decide⟩
  obtain ⟨forest, -, only, -, names, get?⟩ := refines document read
  have sequence : Spells
      [.opening ⟨"Sequence", .ok []⟩, .single ⟨treeTag, .ok [("ID", "Main")]⟩, .closing] _ :=
    @Spells.paired _ [_] _ _ _ (.single _ .nil) .nil
  have trees : Spells nestedTrees.events.tail.dropLast _ :=
    @Spells.paired _ [_, _, _] _ _ _ sequence (.single _ .nil)
  have spelled : Spells nestedTrees.events _ :=
    @Spells.paired _ nestedTrees.events.tail.dropLast _ _ _ trees .nil
  obtain rfl := only _ spelled
  refine ⟨matched, document, read, ?_, ?_⟩
  · rw [names]
    decide
  · rw [get?]
    decide

end BehaviorDiff.Markup
