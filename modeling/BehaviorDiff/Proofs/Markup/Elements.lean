import BehaviorDiff.Markup.Definitions

set_option autoImplicit false

/-!
The elements that a sequence of events spells, and the trees among them. An element is read off its
opening and closing tags, or off a single tag; what stands between the two tags is again a sequence
of elements. A tree element defines a tree of its own, wherever it stands, and is left out of every
tree around it. If every closing tag closes an open element and none stays open, the events spell a
forest.
-/

namespace BehaviorDiff.Markup

/-- An element with the elements inside it, in order. -/
inductive Element where
  | mk (tag : Tag) (children : List Element)

namespace Element

/-- The tag that opens an element. -/
def tag : Element → Tag
  | mk tag _ => tag

/-- Whether an element defines a tree. -/
def isTree (element : Element) : Bool := element.tag.name = treeTag

end Element

/-- The attributes of a tag; without any if they cannot be read. -/
def Tag.attributeMap (tag : Tag) : Attributes :=
  match tag.attributes with
  | .ok entries => .ofList entries
  | .error _ => .empty

mutual

/-- The node of an element with the nodes of the elements inside it. -/
def Element.draft : Element → Draft
  | .mk tag children => ⟨tag.name, tag.attributeMap, draftsOf children⟩

/-- The nodes of a row of elements; those that define trees are left out. -/
def draftsOf : List Element → List Draft
  | [] => []
  | element :: rest =>
    if element.isTree then draftsOf rest else element.draft :: draftsOf rest

end

mutual

/-- The elements that define trees, in the order of their opening tags, at any depth. -/
def Element.trees : Element → List Element
  | .mk tag children =>
    if tag.name = treeTag then .mk tag children :: treesOf children else treesOf children

/-- The elements of a row that define trees, at any depth. -/
def treesOf : List Element → List Element
  | [] => []
  | element :: rest => element.trees ++ treesOf rest

end

/-- The tree that an element defines, with its name: the identity of the element, or else the name
of a tree that has none. -/
def Element.definition (element : Element) : String × Node :=
  (element.draft.attributes.id?.getD defaultTreeName, element.draft.build)

/-- The events spell the elements of a forest. -/
inductive Spells : List Event → List Element → Prop
  | nil : Spells [] []
  | single (tag : Tag) {events : List Event} {rest : List Element} :
      Spells events rest → Spells (.single tag :: events) (.mk tag [] :: rest)
  | paired (tag : Tag) {inner events : List Event} {children rest : List Element} :
      Spells inner children → Spells events rest →
        Spells (.opening tag :: (inner ++ .closing :: events)) (.mk tag children :: rest)

/-- How many elements are open behind a sequence of events, if as many were open before it; none if
a closing tag closes nothing. -/
def openAfter (count : Nat) : List Event → Option Nat
  | [] => some count
  | .opening _ :: rest => openAfter (count + 1) rest
  | .single _ :: rest => openAfter count rest
  | .closing :: rest =>
    match count with
    | 0 => none
    | outer + 1 => openAfter outer rest

/-- The tags that begin an element, each with the names of the elements around it, innermost
first. -/
def elementsIn (around : List String) : List Event → List (List String × Tag)
  | [] => []
  | .opening tag :: rest => (around, tag) :: elementsIn (tag.name :: around) rest
  | .single tag :: rest => (around, tag) :: elementsIn around rest
  | .closing :: rest => elementsIn around.tail rest

/-- An element inside elements of some names defines a tree or lies inside one. -/
def InTree (around : List String) (tag : Tag) : Prop := treeTag ∈ tag.name :: around

instance (around : List String) (tag : Tag) : Decidable (InTree around tag) :=
  inferInstanceAs (Decidable (treeTag ∈ tag.name :: around))

/-- Every element that defines a tree or lies inside one has attributes that can be read. -/
def Readable (around : List String) (events : List Event) : Prop :=
  ∀ element ∈ elementsIn around events, InTree element.1 element.2 →
    ∃ entries, element.2.attributes = .ok entries

/-- A tag without attributes, if it lies outside of every tree. -/
def Tag.conceal (around : List String) (tag : Tag) : Tag :=
  if InTree around tag then tag else ⟨tag.name, .ok []⟩

/-- The events without the attributes of the elements outside of every tree. -/
def conceal (around : List String) : List Event → List Event
  | [] => []
  | .opening tag :: rest => .opening (tag.conceal around) :: conceal (tag.name :: around) rest
  | .single tag :: rest => .single (tag.conceal around) :: conceal around rest
  | .closing :: rest => .closing :: conceal around.tail rest

/-- Inside an element, the events up to its closing tag spell a forest. -/
private theorem exists_inner_of_openAfter (length : Nat) {events : List Event} {count : Nat}
    (short : events.length ≤ length) (h : openAfter (count + 1) events = some 0) :
    ∃ inner after children, events = inner ++ .closing :: after ∧ Spells inner children ∧
      openAfter count after = some 0 := by
  -- The content of an element inside this one ends first; what is behind it is shorter still.
  induction length generalizing events count with
  | zero =>
    have empty : events = [] := List.length_eq_zero_iff.1 (by omega)
    subst empty
    cases h
  | succ length ih =>
    cases events with
    | nil => cases h
    | cons event rest =>
      have shorter : rest.length ≤ length := by
        rw [List.length_cons] at short
        omega
      cases event with
      | closing => exact ⟨[], rest, [], rfl, .nil, h⟩
      | single tag =>
        obtain ⟨inner, after, children, rfl, spelled, closed⟩ := ih shorter h
        exact ⟨.single tag :: inner, after, .mk tag [] :: children, rfl, .single tag spelled,
          closed⟩
      | opening tag =>
        obtain ⟨content, behind, children, rfl, spelled, stillOpen⟩ := ih shorter h
        have behindShort : behind.length ≤ length := by
          rw [List.length_append, List.length_cons] at shorter
          omega
        obtain ⟨inner, after, siblings, rfl, spelled', closed⟩ := ih behindShort stillOpen
        refine ⟨.opening tag :: (content ++ .closing :: inner), after, .mk tag children :: siblings,
          ?_, .paired tag spelled spelled', closed⟩
        simp

private theorem exists_spells_of_openAfter {events : List Event} (h : openAfter 0 events = some 0) :
    ∃ forest, Spells events forest := by
  induction length : events.length using Nat.strongRecOn generalizing events with
  | ind n ih =>
    cases events with
    | nil => exact ⟨[], .nil⟩
    | cons event rest =>
      rw [List.length_cons] at length
      cases event with
      | closing => cases h
      | single tag =>
        have closed : openAfter 0 rest = some 0 := h
        obtain ⟨forest, spelled⟩ := ih rest.length (by omega) closed rfl
        exact ⟨_, .single tag spelled⟩
      | opening tag =>
        obtain ⟨inner, after, children, rfl, spelled, closed⟩ :=
          exists_inner_of_openAfter rest.length (Nat.le_refl _) h
        rw [List.length_append, List.length_cons] at length
        obtain ⟨forest, spelled'⟩ := ih after.length (by omega) closed rfl
        exact ⟨_, .paired tag spelled spelled'⟩

/-- The events of a forest leave as many elements open as before. -/
theorem openAfter_append_of_spells {events : List Event} {forest : List Element}
    (h : Spells events forest) (count : Nat) (after : List Event) :
    openAfter count (events ++ after) = openAfter count after := by
  induction h generalizing count after with
  | nil => rfl
  | single tag _ ih => exact ih count after
  | paired tag _ _ ihInner ihRest =>
    rw [List.cons_append, List.append_assoc, openAfter, ihInner]
    exact ihRest count after

/-- Events spell a forest exactly if every closing tag closes an element and none stays open. -/
theorem exists_spells_iff {events : List Event} :
    (∃ forest, Spells events forest) ↔ openAfter 0 events = some 0 := by
  constructor
  · rintro ⟨forest, spelled⟩
    have left := openAfter_append_of_spells spelled 0 []
    rw [List.append_nil] at left
    exact left
  · exact exists_spells_of_openAfter

theorem Spells.unique_before {events events' behind behind' : List Event}
    {forest forest' : List Element} (h : Spells events forest) (h' : Spells events' forest')
    (same : events ++ .closing :: behind = events' ++ .closing :: behind') :
    forest = forest' ∧ behind = behind' := by
  induction h generalizing events' forest' behind behind' with
  | nil =>
    cases h' with
    | nil => exact ⟨rfl, (List.cons.inj same).2⟩
    | single _ _ => cases same
    | paired _ _ _ => cases same
  | single tag _ ih =>
    cases h' with
    | nil => cases same
    | single tag' spelled' =>
      obtain ⟨head, tail⟩ := List.cons.inj same
      cases head
      obtain ⟨rfl, rfl⟩ := ih spelled' tail
      exact ⟨rfl, rfl⟩
    | paired _ _ _ => cases same
  | paired tag _ _ ihInner ihRest =>
    cases h' with
    | nil => cases same
    | single _ _ => cases same
    | paired tag' inner' rest' =>
      obtain ⟨head, tail⟩ := List.cons.inj same
      cases head
      obtain ⟨rfl, tail⟩ := ihInner inner' (by simpa using tail)
      obtain ⟨rfl, rfl⟩ := ihRest rest' tail
      exact ⟨rfl, rfl⟩

/-- Events spell at most one forest. -/
theorem Spells.unique {events : List Event} {forest forest' : List Element}
    (h : Spells events forest) (h' : Spells events forest') : forest = forest' :=
  (h.unique_before h' (rfl : events ++ .closing :: [] = events ++ .closing :: [])).1
/-- What a piece says agrees with the elements that are open behind it. -/
theorem interpret_cases {opened still : List (List Char)} {piece : Piece} {start : Nat}
    {event? : Option Event} (h : piece.interpret opened start = .ok (event?, still)) :
    (event? = none ∧ still = opened) ∨ (∃ tag, event? = some (.single tag) ∧ still = opened) ∨
      (∃ tag name, event? = some (.opening tag) ∧ still = name :: opened) ∨
        ∃ name, event? = some .closing ∧ opened = name :: still := by
  rw [Piece.interpret] at h
  cases kind : piece.kind <;> simp only [kind] at h
  case element =>
    split at h <;> cases h
    · exact .inr (.inl ⟨_, rfl, rfl⟩)
    · exact .inr (.inr (.inl ⟨_, _, rfl, rfl⟩))
  case closing =>
    cases opened with
    | nil => cases h
    | cons innermost outer =>
      simp only at h
      split at h <;> cases h
      exact .inr (.inr (.inr ⟨_, rfl, rfl⟩))
  case doctype =>
    split at h
    · split at h <;> cases h
      exact .inl ⟨rfl, rfl⟩
    · cases h
  all_goals
    split at h <;> cases h
    exact .inl ⟨rfl, rfl⟩

/-- In the events of a text every closing tag closes an element. -/
theorem openAfter_readEvents_ne_none (opened : List (List Char)) (position : Nat)
    (text : List Char) :
    openAfter opened.length (readEvents opened position text).events ≠ none := by
  fun_induction readEvents opened position text with
  | case5 _ _ _ _ _ _ _ _ _ _ _ _ _ _ interpreted _ ih =>
    rcases interpret_cases interpreted with
      ⟨rfl, rfl⟩ | ⟨tag, rfl, rfl⟩ | ⟨tag, name, rfl, rfl⟩ | ⟨name, rfl, rfl⟩
    all_goals exact ih
  | _ => exact Option.some_ne_none _

theorem openAfter_eventsOf_ne_none (text : String) : openAfter 0 (eventsOf text).events ≠ none := by
  rw [eventsOf]
  split
  · exact openAfter_readEvents_ne_none [] 0 _
  · exact openAfter_readEvents_ne_none [] 0 _

end BehaviorDiff.Markup
