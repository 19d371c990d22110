import Mathlib.Data.List.Forall2
import BehaviorDiff.Proofs.Diff.Reported
import BehaviorDiff.Proofs.Tree.Chain

set_option autoImplicit false

/-!
Trees between which a comparison finds nothing. Either tree then covers the other, and covering can
be composed, so for fixed options this is an equivalence of trees without repeated paths. Drafts
that agree in everything that a path or a difference can be made of are built into such trees: node
by node, in pre-order, they have one path and no difference.
-/

namespace BehaviorDiff

/-- A comparison of the trees succeeds and finds no change. -/
def NoDifference (options : CompareOptions) (old new : Node) : Prop :=
  ∃ changes, compareTrees options old new = .ok changes ∧
    ∀ change ∈ changes, change.kind = .unchanged

/-- A tree in which no path occurs twice. -/
abbrev AddressedTree := { root : Node // (root.preorder.map Node.path).Nodup }

/-- The same values, up to the order of attributes: a missing attribute is empty, and one that is
ignored may have any value, unless it is the identity. -/
def Attributes.Agree (options : CompareOptions) (a b : Attributes) : Prop :=
  ∀ name, (options.isIgnored name = true ∧ name ≠ idAttribute) ∨
    (a.get? name).getD "" = (b.get? name).getD ""

namespace Draft

mutual

/-- The same tags and the same values, node by node, with children in order. -/
def Agrees (options : CompareOptions) : Draft → Draft → Prop
  | ⟨tag, attributes, children⟩, ⟨tag', attributes', children'⟩ =>
    tag = tag' ∧ Attributes.Agree options attributes attributes' ∧
      AgreesAll options children children'

/-- `Agrees`, child by child. -/
def AgreesAll (options : CompareOptions) : List Draft → List Draft → Prop
  | [], [] => True
  | child :: rest, child' :: rest' => Agrees options child child' ∧ AgreesAll options rest rest'
  | _, _ => False

end

end Draft

/-- Nodes of one path between which there is no difference. -/
structure Matched (options : CompareOptions) (a b : Node) : Prop where
  path : a.path = b.path
  same : (contentDelta options a b).isEmpty = true

section Relation
variable {options : CompareOptions}

theorem isEmpty_contentDelta_self (node : Node) :
    (contentDelta options node node).isEmpty = true := by
  rw [isEmpty_contentDelta_iff]
  exact ⟨rfl, rfl, fun name => .inr rfl⟩

theorem isEmpty_contentDelta_trans {a b c : Node}
    (first : (contentDelta options a b).isEmpty = true)
    (second : (contentDelta options b c).isEmpty = true) :
    (contentDelta options a c).isEmpty = true := by
  rw [isEmpty_contentDelta_iff] at first second ⊢
  refine ⟨first.1.trans second.1, first.2.1.trans second.2.1, fun name => ?_⟩
  rcases first.2.2 name with ignored | value
  · exact .inl ignored
  · exact (second.2.2 name).imp_right value.trans

theorem Covers.trans {a b c : List Node} (first : Covers options a b)
    (second : Covers options b c) : Covers options a c := by
  intro node hm
  obtain ⟨node', hm', path, same⟩ := first node hm
  obtain ⟨node'', hm'', path', same'⟩ := second node' hm'
  exact ⟨node'', hm'', path.trans path', isEmpty_contentDelta_trans same same'⟩

instance (old new : List Node) : Decidable (Covers options old new) :=
  inferInstanceAs (Decidable (∀ before ∈ old, ∃ after ∈ new, _ ∧ _))

/-- There is no difference exactly if the trees can be compared and cover each other. -/
theorem noDifference_iff {old new : Node} :
    NoDifference options old new ↔
      ((old.preorder.map Node.path).Nodup ∧ (new.preorder.map Node.path).Nodup) ∧
        Covers options old.preorder new.preorder ∧ Covers options new.preorder old.preorder := by
  constructor
  · rintro ⟨changes, compared, unchanged⟩
    exact ⟨exists_changes_iff.1 ⟨changes, compared⟩, (forall_unchanged_iff compared).1 unchanged⟩
  · rintro ⟨distinct, covers⟩
    obtain ⟨changes, compared⟩ := exists_changes_of_nodup options distinct.1 distinct.2
    exact ⟨changes, compared, (forall_unchanged_iff compared).2 covers⟩

instance {old new : Node} : Decidable (NoDifference options old new) :=
  decidable_of_iff _ noDifference_iff.symm

theorem NoDifference.symm {a b : Node} (h : NoDifference options a b) :
    NoDifference options b a := by
  rw [noDifference_iff] at h ⊢
  exact ⟨h.1.symm, h.2.symm⟩

theorem NoDifference.trans {a b c : Node} (first : NoDifference options a b)
    (second : NoDifference options b c) : NoDifference options a c := by
  rw [noDifference_iff] at first second ⊢
  obtain ⟨⟨distinct, -⟩, forth, back⟩ := first
  obtain ⟨⟨-, distinct'⟩, forth', back'⟩ := second
  exact ⟨⟨distinct, distinct'⟩, forth.trans forth', back'.trans back⟩

end Relation

section Matching
variable {options : CompareOptions} {old new : Node}

private theorem map_eq_zipWith_of_forall₂ {α β γ : Type} {f : α → γ} {g : α → β → γ}
    {items : List α} {partners : List β}
    (h : List.Forall₂ (fun item partner => f item = g item partner) items partners) :
    items.map f = List.zipWith g items partners := by
  induction h with
  | nil => rfl
  | cons here _ ih => rw [List.map_cons, List.zipWith_cons_cons, here, ih]

theorem paths_eq_of_matched (matched : List.Forall₂ (Matched options) old.preorder new.preorder) :
    old.preorder.map Node.path = new.preorder.map Node.path := by
  rw [← List.forall₂_eq_eq_eq, List.forall₂_map_left_iff, List.forall₂_map_right_iff]
  exact matched.imp fun _ _ same => same.path

/-- Trees that match node by node are unchanged, node by node. -/
theorem compareTrees_of_matched
    (matched : List.Forall₂ (Matched options) old.preorder new.preorder)
    (distinct : (old.preorder.map Node.path).Nodup) :
    compareTrees options old new =
      .ok (List.zipWith Change.unchanged old.preorder new.preorder) := by
  have paths := paths_eq_of_matched matched
  obtain ⟨changes, compared⟩ := exists_changes_of_nodup options distinct (paths ▸ distinct)
  obtain ⟨oldIndex, newIndex, moves, ho, hn, -, rfl⟩ := exists_settled_of_compareTrees compared
  -- No path is new, so nothing is added, and every old node meets its partner.
  have added : Moves.stayAdded oldIndex newIndex moves = [] := by
    rw [Moves.stayAdded, List.filter_eq_nil_iff]
    intro node hm
    have known : oldIndex.contains node.path = true := by
      rw [PathIndex.contains_iff, ho, paths, ← hn]
      exact List.mem_map_of_mem hm
    simp [known]
  have met : List.Forall₂ (fun before after =>
      Moves.changeOfOld options newIndex moves before = .unchanged before after)
      oldIndex.nodes newIndex.nodes := by
    rw [ho, hn, List.forall₂_iff_zip]
    refine ⟨matched.length_eq, fun {before after} hm => ?_⟩
    have same := (List.forall₂_iff_zip.1 matched).2 hm
    have found : newIndex.get? before.path = some after := by
      rw [PathIndex.get?_eq_some_iff, hn]
      exact ⟨(List.of_mem_zip hm).2, same.path.symm⟩
    rw [Moves.changeOfOld_of_get? options moves found]
    exact compareContent_eq_unchanged_iff.2 same.same
  rw [compared, Moves.settled, added, map_eq_zipWith_of_forall₂ met, ho, hn]
  simp

theorem noDifference_of_matched
    (matched : List.Forall₂ (Matched options) old.preorder new.preorder)
    (distinct : (old.preorder.map Node.path).Nodup) : NoDifference options old new := by
  refine ⟨_, compareTrees_of_matched matched distinct, fun change hm => ?_⟩
  rw [← List.map_uncurry_zip_eq_zipWith] at hm
  obtain ⟨pair, -, rfl⟩ := List.mem_map.1 hm
  rfl

theorem matched_self (options : CompareOptions) (root : Node) :
    List.Forall₂ (Matched options) root.preorder root.preorder :=
  List.forall₂_same.2 fun node _ => ⟨rfl, isEmpty_contentDelta_self node⟩

/-- Comparing a tree with itself finds every node unchanged. -/
theorem compareTrees_self (distinct : (old.preorder.map Node.path).Nodup) :
    compareTrees options old old = .ok (old.preorder.map fun node => .unchanged node node) := by
  rw [compareTrees_of_matched (matched_self options old) distinct, List.zipWith_self]

/-- Trees without a difference whose paths come in one order match node by node. -/
theorem forall₂_matched_of_paths_eq (same : NoDifference options old new)
    (paths : old.preorder.map Node.path = new.preorder.map Node.path) :
    List.Forall₂ (Matched options) old.preorder new.preorder := by
  obtain ⟨⟨-, distinct⟩, covers, -⟩ := noDifference_iff.1 same
  rw [← List.forall₂_eq_eq_eq, List.forall₂_map_left_iff, List.forall₂_map_right_iff,
    List.forall₂_iff_zip] at paths
  refine List.forall₂_iff_zip.2 ⟨paths.1, fun {a b} hm => ⟨paths.2 hm, ?_⟩⟩
  obtain ⟨b', hb', path, empty⟩ := covers a (List.of_mem_zip hm).1
  obtain rfl : b' = b := List.inj_on_of_nodup_map distinct hb' (List.of_mem_zip hm).2
    (path.symm.trans (paths.2 hm))
  exact empty

end Matching

section Built
variable {options : CompareOptions}

theorem Attributes.Agree.id?_eq {a b : Attributes} (agree : Attributes.Agree options a b) :
    a.id? = b.id? := by
  have value := (agree idAttribute).resolve_left fun ignored => ignored.2 rfl
  rw [a.id?_eq, b.id?_eq, value]

theorem Draft.Agrees.tag {a b : Draft} (agree : a.Agrees options b) : a.tag = b.tag := by
  cases a
  cases b
  exact agree.1

theorem Draft.Agrees.attributes {a b : Draft} (agree : a.Agrees options b) :
    Attributes.Agree options a.attributes b.attributes := by
  cases a
  cases b
  exact agree.2.1

theorem Draft.matched_buildAt {tag : String} {attributes attributes' : Attributes}
    (agree : Attributes.Agree options attributes attributes') (children children' : List Draft)
    (path : String) (depth : Nat) :
    Matched options ((Draft.mk tag attributes children).buildAt path depth)
      ((Draft.mk tag attributes' children').buildAt path depth) := by
  refine ⟨rfl, isEmpty_contentDelta_iff.2 ⟨rfl, rfl, fun name => ?_⟩⟩
  exact (agree name).imp_left And.left

mutual

/-- Drafts that agree are built into trees that match, at any path and depth. -/
theorem Draft.forall₂_matched_buildAt (path : String) (depth : Nat) :
    (a b : Draft) → a.Agrees options b →
      List.Forall₂ (Matched options) (a.buildAt path depth).preorder (b.buildAt path depth).preorder
  | ⟨tag, attributes, children⟩, ⟨_, attributes', children'⟩, ⟨rfl, agree, below⟩ => by
    rw [Node.preorder_eq, Node.preorder_eq, Draft.children_buildAt, Draft.children_buildAt]
    exact .cons (Draft.matched_buildAt agree children children' path depth)
      (Draft.forall₂_matched_buildChildren path (depth + 1) [] children children' below)

/-- Rows of drafts that agree have the same tags and identities, so each child has the path of its
counterpart. -/
theorem Draft.forall₂_matched_buildChildren (parent : String) (depth : Nat)
    (earlier : List String) :
    (drafts drafts' : List Draft) → Draft.AgreesAll options drafts drafts' →
      List.Forall₂ (Matched options)
        (Node.preorderAll (Draft.buildChildren parent depth earlier drafts))
        (Node.preorderAll (Draft.buildChildren parent depth earlier drafts'))
  | [], [], _ => .nil
  | a :: rest, b :: rest', ⟨here, later⟩ => by
    have tags : a.tag = b.tag := here.tag
    have steps (rank : Nat) : Draft.pathStep a.tag a.attributes rank =
        Draft.pathStep b.tag b.attributes rank := by
      rw [Draft.pathStep, Draft.pathStep, here.attributes.id?_eq, tags]
    rw [Draft.buildChildren, Draft.buildChildren, Node.preorderAll, Node.preorderAll, steps, tags]
    exact List.rel_append (Draft.forall₂_matched_buildAt _ depth a b here)
      (Draft.forall₂_matched_buildChildren parent depth (b.tag :: earlier) rest rest' later)

end

end Built

/-- For fixed options, trees without a difference are equivalent; a tree compared with itself has
every node unchanged, in pre-order; and there is no difference between trees whose drafts differ
only in the order of attributes, in ignored attributes other than the identity, and in attributes
that one has empty and the other does not have. -/
theorem noDifference_equivalence (options : CompareOptions) :
    Equivalence (fun a b : AddressedTree => NoDifference options a.1 b.1) ∧
    (∀ root : AddressedTree, compareTrees options root.1 root.1 =
      .ok (root.1.preorder.map fun node => .unchanged node node)) ∧
    ∀ old new : Draft, (old.build.preorder.map Node.path).Nodup → old.Agrees options new →
      NoDifference options old.build new.build := by
  refine ⟨⟨fun root => ?_, NoDifference.symm, NoDifference.trans⟩,
    fun root => compareTrees_self root.2, fun old new distinct agree => ?_⟩
  · exact noDifference_of_matched (matched_self options root.1) root.2
  · have tags : old.tag = new.tag := agree.tag
    have matched := Draft.forall₂_matched_buildAt old.tag 0 old new agree
    refine noDifference_of_matched ?_ distinct
    rw [Draft.build, Draft.build, ← tags]
    exact matched

/-- Options that leave the speed of a node out. -/
def ignoringSpeed : CompareOptions := ⟨fun name => name == "speed"⟩

/-- An action with its identity first. -/
def dockingBefore : Draft :=
  (Draft.new "Sequence").pushChild
    (((Draft.new "Action").setAttribute "ID" "Dock").setAttribute "speed" "1")

/-- The same action at another speed, with an empty name, and a sequence with an empty identity. -/
def dockingAfter : Draft :=
  ((Draft.new "Sequence").setAttribute "ID" "").pushChild
    ((((Draft.new "Action").setAttribute "speed" "2").setAttribute "name" "").setAttribute "ID"
      "Dock")

theorem noDifference_docking :
    (dockingBefore.build.preorder.map Node.path).Nodup ∧
      dockingBefore.Agrees ignoringSpeed dockingAfter ∧
        NoDifference ignoringSpeed dockingBefore.build dockingAfter.build := by
  have distinct : (dockingBefore.build.preorder.map Node.path).Nodup := by decide
  have root : Attributes.Agree ignoringSpeed .empty (OrderedMap.empty.insert "ID" "") := by
    intro name
    right
    rw [OrderedMap.get?_insert]
    by_cases identity : name = "ID"
    · simp [identity, OrderedMap.get?, OrderedMap.empty]
    · simp [identity]
  have action : Attributes.Agree ignoringSpeed
      ((OrderedMap.empty.insert "ID" "Dock").insert "speed" "1")
      (((OrderedMap.empty.insert "speed" "2").insert "name" "").insert "ID" "Dock") := by
    intro name
    by_cases speed : name = "speed"
    · exact .inl ⟨by simp [ignoringSpeed, speed], by simp [speed, idAttribute]⟩
    · right
      simp only [OrderedMap.get?_insert, speed, if_false]
      by_cases identity : name = "ID"
      · simp [identity]
      · by_cases label : name = "name"
        · simp [label, OrderedMap.get?, OrderedMap.empty]
        · simp [identity, label]
  have agree : dockingBefore.Agrees ignoringSpeed dockingAfter :=
    ⟨rfl, root, ⟨rfl, action, trivial⟩, trivial⟩
  exact ⟨distinct, agree, (noDifference_equivalence ignoringSpeed).2.2 _ _ distinct agree⟩

end BehaviorDiff
