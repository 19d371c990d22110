import BehaviorDiff.Proofs.Markup.Document
import BehaviorDiff.Proofs.Markup.WrittenPieces

set_option autoImplicit false

/-!
Reading what was written. A forest is written element by element, one without children with one tag
or with two, and with gaps of text and comments anywhere between the tags. Reading such a text gives
events that spell the forest, whatever the gaps, and so the document has the trees of the forest.
-/

namespace BehaviorDiff.Markup

mutual

/-- The element of a draft: its tag says what the draft says. -/
def elementOf : Draft → Element
  | ⟨tag, attributes, children⟩ => .mk ⟨tag, .ok attributes.entries⟩ (elementsOf children)

/-- The elements of a row of drafts. -/
def elementsOf : List Draft → List Element
  | [] => []
  | draft :: rest => elementOf draft :: elementsOf rest

end

/-- The document of the tree elements of a forest, in the order of their opening tags. -/
def documentOf (forest : List Draft) : Document :=
  .ofList ((treesOf (elementsOf forest)).map Element.definition)

/-- The tags and the attribute names of a forest are words. -/
inductive Worded : List Draft → Prop
  | nil : Worded []
  | cons {tag : String} {attributes : Attributes} {children rest : List Draft} :
      IsWord tag.toList → (∀ key ∈ attributes.keys, IsWord key.toList) → Worded children →
        Worded rest → Worded (⟨tag, attributes, children⟩ :: rest)

/-- What may stand between tags: text without `<`, and comments without `--` in their bodies. -/
inductive Gap : List Char → Prop
  | nil : Gap []
  | character {c : Char} {gap : List Char} : c ≠ '<' → Gap gap → Gap (c :: gap)
  | comment {body gap : List Char} :
      ¬ ['-', '-'] <:+: body → Gap gap → Gap (commentText body ++ gap)

/-- A text in which a forest is written. -/
inductive Written : List Draft → List Char → Prop
  | nil {gap : List Char} : Gap gap → Written [] gap
  | single {tag : String} {attributes : Attributes} {rest : List Draft} {gap after : List Char} :
      Gap gap → Written rest after →
        Written (⟨tag, attributes, []⟩ :: rest) (gap ++ (singleTag tag attributes ++ after))
  | paired {tag : String} {attributes : Attributes} {children rest : List Draft}
      {gap inner after : List Char} :
      Gap gap → Written children inner → Written rest after →
        Written (⟨tag, attributes, children⟩ :: rest)
          (gap ++ (openingTag tag attributes ++ (inner ++ (closingTag tag ++ after))))

mutual

/-- A draft as it is written without gaps. -/
def printElement : Draft → List Char
  | ⟨tag, attributes, children⟩ =>
    if children.isEmpty then singleTag tag attributes
    else openingTag tag attributes ++ (printForest children ++ closingTag tag)

/-- A forest as it is written without gaps. -/
def printForest : List Draft → List Char
  | [] => []
  | draft :: rest => printElement draft ++ printForest rest

end

theorem written_printForest : ∀ forest : List Draft, Written forest (printForest forest)
  | [] => .nil .nil
  | ⟨tag, attributes, []⟩ :: rest => by
    rw [printForest, printElement]
    exact .single .nil (written_printForest rest)
  | ⟨tag, attributes, child :: others⟩ :: rest => by
    have inner := written_printForest (child :: others)
    rw [printForest, printElement, if_neg (by simp), List.append_assoc, List.append_assoc]
    exact .paired .nil inner (written_printForest rest)

theorem Gap.reads {gap : List Char} (h : Gap gap) (opened : List (List Char)) :
    Reads opened gap [] opened := by
  induction h with
  | nil => exact .nil opened
  | character outside _ ih => exact (reads_character outside).append ih
  | comment free _ ih => exact (reads_commentText free).append ih

theorem gap_of_free {text : List Char} (free : '<' ∉ text) : Gap text := by
  induction text with
  | nil => exact .nil
  | cons c rest ih =>
    rw [List.mem_cons, not_or] at free
    exact .character (Ne.symm free.1) (ih free.2)

/-- A written forest gives events that spell it and that can be read anywhere. -/
theorem exists_reads_of_written {forest : List Draft} {text : List Char}
    (written : Written forest text) (worded : Worded forest) :
    ∃ events, Spells events (elementsOf forest) ∧ (∀ around, Readable around events) ∧
      ∀ opened, Reads opened text events opened := by
  -- The events do not depend on what is open around; inside an element its own tag is.
  induction written with
  | nil gap => exact ⟨[], .nil, fun _ _ hm => absurd hm List.not_mem_nil, gap.reads⟩
  | single gap _ ih =>
    cases worded with | cons word words _ later =>
    obtain ⟨events, spelled, readable, reads⟩ := ih later
    refine ⟨_, .single ⟨_, .ok _⟩ spelled, fun around => ?_, fun opened => ?_⟩
    · exact readable_single_iff.2 ⟨fun _ => ⟨_, rfl⟩, readable around⟩
    · exact (gap.reads opened).append ((reads_singleTag word words).append (reads opened))
  | paired gap _ _ ihInner ihRest =>
    cases worded with | cons word words within later =>
    obtain ⟨inner, spelledInner, readableInner, readsInner⟩ := ihInner within
    obtain ⟨events, spelled, readable, reads⟩ := ihRest later
    refine ⟨_, .paired ⟨_, .ok _⟩ spelledInner spelled, fun around => ?_, fun opened => ?_⟩
    · refine readable_opening_iff.2 ⟨fun _ => ⟨_, rfl⟩, ?_⟩
      rw [Readable, elementsIn_append_of_spells spelledInner]
      exact List.forall_mem_append.2 ⟨readableInner _, readable around⟩
    · exact (gap.reads opened).append <| (reads_openingTag word words).append <|
        (readsInner _).append <| (reads_closingTag word).append (reads opened)

theorem Gap.of_cons {c : Char} {text : List Char} (h : Gap (c :: text)) (outside : c ≠ '<') :
    Gap text := by
  generalize same : c :: text = gap at h
  cases h with
  | nil => cases same
  | character _ gap =>
    cases same
    exact gap
  | comment _ _ => exact absurd (List.cons.inj same).1 outside

theorem Written.of_cons {forest : List Draft} {c : Char} {text : List Char}
    (h : Written forest (c :: text)) (outside : c ≠ '<') : Written forest text := by
  generalize same : c :: text = written at h
  cases h with
  | nil gap =>
    subst same
    exact .nil (gap.of_cons outside)
  | single gap rest =>
    rcases List.cons_eq_append_iff.1 same with ⟨-, tag⟩ | ⟨gap', rfl, rfl⟩
    · exact absurd (List.cons.inj tag).1.symm outside
    · exact .single (gap.of_cons outside) rest
  | paired gap inner rest =>
    rcases List.cons_eq_append_iff.1 same with ⟨-, tag⟩ | ⟨gap', rfl, rfl⟩
    · exact absurd (List.cons.inj tag).1.symm outside
    · exact .paired (gap.of_cons outside) inner rest

/-- A byte order mark is a part of the first gap. -/
theorem exists_written_eventsOf {forest : List Draft} {text : String}
    (written : Written forest text.toList) :
    ∃ characters, Written forest characters ∧ eventsOf text = readEvents [] 0 characters := by
  rw [eventsOf]
  split
  · next rest mark =>
    rw [mark] at written
    exact ⟨rest, written.of_cons (by decide), rfl⟩
  · exact ⟨text.toList, written, rfl⟩

theorem draft_elementOf (draft : Draft) :
    (elementOf draft).draft =
      ⟨draft.tag, draft.attributes, draftsOf (elementsOf draft.children)⟩ := by
  obtain ⟨tag, attributes, children⟩ := draft
  have same : Tag.attributeMap ⟨tag, .ok attributes.entries⟩ = attributes :=
    OrderedMap.ext (OrderedMap.entries_ofList attributes.nodup)
  rw [elementOf, Element.draft, same]

theorem treesOf_elementsOf_cons (draft : Draft) (rest : List Draft) :
    treesOf (elementsOf (draft :: rest)) =
      (if draft.tag = treeTag then elementOf draft :: treesOf (elementsOf draft.children)
        else treesOf (elementsOf draft.children)) ++ treesOf (elementsOf rest) := by
  obtain ⟨tag, attributes, children⟩ := draft
  rw [elementsOf, treesOf, elementOf, Element.trees]

/-- Without trees among the drafts and inside them, none of them is left out. -/
theorem draftsOf_elementsOf : ∀ {drafts : List Draft}, treesOf (elementsOf drafts) = [] →
    draftsOf (elementsOf drafts) = drafts
  | [], _ => rfl
  | ⟨tag, attributes, children⟩ :: rest, plain => by
    rw [treesOf_elementsOf_cons] at plain
    obtain ⟨here, later⟩ := List.append_eq_nil_iff.1 plain
    have other : ¬ tag = treeTag := fun tree => by simp [tree] at here
    rw [if_neg other] at here
    have within := draftsOf_elementsOf here
    have other' : (elementOf ⟨tag, attributes, children⟩).isTree = false := by
      rw [elementOf, Element.isTree]
      exact decide_eq_false other
    rw [elementsOf, draftsOf, if_neg (by simp [other']), draft_elementOf, within,
      draftsOf_elementsOf later]

theorem parseDocument_of_written {forest : List Draft} (worded : Worded forest) {text : String}
    (written : Written forest text.toList) : parseDocument text = .ok (documentOf forest) := by
  obtain ⟨characters, written, start⟩ := exists_written_eventsOf written
  obtain ⟨events, spelled, readable, reads⟩ := exists_reads_of_written written worded
  have stream : eventsOf text = ⟨events, none⟩ := by
    have run := reads [] 0 []
    rw [List.append_nil] at run
    rw [start, run, readEvents_eq]
    simp [splitAtFirst, eventsAt, EventStream.behind]
  have closed : openAfter 0 events = some 0 := exists_spells_iff.1 ⟨_, spelled⟩
  obtain ⟨document, read⟩ := (exists_parseDocument_iff text).2
    ⟨by rw [stream], by rw [stream]; exact readable [], by rw [stream]; exact closed⟩
  rw [read, documentOf]
  rw [parseDocument_eq, stream] at read
  exact congrArg Except.ok (document_eq_of_spells spelled read)

/-- Reading undoes writing, and gaps change nothing: the document has the trees of the tree elements
in the order of their opening tags, a later one in the place of an earlier one of its name. Each
keeps its attributes, and with no tree element inside it is built as it is. -/
theorem parseDocument_printForest {forest : List Draft} (worded : Worded forest) :
    parseDocument (String.ofList (printForest forest)) = .ok (documentOf forest) ∧
    (∀ text : String, Written forest text.toList →
      parseDocument text = parseDocument (String.ofList (printForest forest))) ∧
    (documentOf forest).names =
      (((treesOf (elementsOf forest)).map Element.definition).map Prod.fst).eraseDups ∧
    (∀ name, (documentOf forest).get? name =
      ((treesOf (elementsOf forest)).map Element.definition).reverse.lookup name) ∧
    ∀ tree : Draft,
      (elementOf tree).draft =
        ⟨tree.tag, tree.attributes, draftsOf (elementsOf tree.children)⟩ ∧
      (treesOf (elementsOf tree.children) = [] →
        (elementOf tree).definition = (Assembly.treeName tree, tree.build)) := by
  have printed : Written forest (String.ofList (printForest forest)).toList := by
    rw [String.toList_ofList]
    exact written_printForest forest
  have read := parseDocument_of_written worded printed
  refine ⟨read, fun text written => ?_, Document.names_ofList _, Document.get?_ofList _,
    fun tree => ⟨draft_elementOf tree, fun plain => ?_⟩⟩
  · rw [read, parseDocument_of_written worded written]
  · rw [Element.definition, draft_elementOf, draftsOf_elementsOf plain]
    cases tree
    rfl

/-- A tree with a tree inside, and a later tree with the name of the inner one. -/
def nestedForest : List Draft :=
  [⟨treeTag, .ofList [("ID", "A"), ("note", "> /")], [⟨treeTag, .ofList [("ID", "B")], []⟩]⟩,
    ⟨treeTag, .ofList [("ID", "B")], [⟨"Idle", .empty, []⟩]⟩]

/-- The same forest as a text with gaps. -/
def nestedText : String :=
  "<!-- > --><BehaviorTree ID=\"A\" note=\"&gt; /\"> x <BehaviorTree ID=\"B\"/></BehaviorTree>
  <BehaviorTree ID=\"B\"><Idle></Idle></BehaviorTree>"

theorem worded_nestedForest : Worded nestedForest :=
  .cons (by decide) (by decide) (.cons (by decide) (by decide) .nil .nil)
    (.cons (by decide) (by decide) (.cons (by decide) (by decide) .nil .nil) .nil)

theorem written_nestedText : Written nestedForest nestedText.toList := by
  have inner : Written [⟨treeTag, .ofList [("ID", "B")], []⟩]
      (" x ".toList ++ (singleTag treeTag (.ofList [("ID", "B")]) ++ [])) :=
    .single (gap_of_free (by decide)) (.nil .nil)
  have idle : Written [⟨"Idle", .empty, []⟩]
      ([] ++ (openingTag "Idle" .empty ++ ([] ++ (closingTag "Idle" ++ [])))) :=
    .paired .nil (.nil .nil) (.nil .nil)
  have before : Gap (commentText " > ".toList ++ []) := .comment (by decide) .nil
  have between : Gap "\n  ".toList := gap_of_free (by decide)
  have written : Written nestedForest _ := .paired before inner (.paired between idle (.nil .nil))
  exact Eq.mp (congrArg (Written nestedForest) (by decide +kernel)) written

theorem parseDocument_nestedText :
    Worded nestedForest ∧ Written nestedForest nestedText.toList ∧
      ∃ document, parseDocument nestedText = .ok document ∧ document.names = ["A", "B"] ∧
        (document.get? "A").bind (·.attribute? "note") = some "> /" ∧
        (document.get? "B").map (·.children.length) = some 1 := by
  obtain ⟨read, gaps, names, get?, -⟩ := parseDocument_printForest worded_nestedForest
  refine ⟨worded_nestedForest, written_nestedText, documentOf nestedForest,
    (gaps nestedText written_nestedText).trans read, ?_, ?_, ?_⟩
  · rw [names]
    decide
  · rw [get?]
    decide
  · rw [get?]
    decide

end BehaviorDiff.Markup
