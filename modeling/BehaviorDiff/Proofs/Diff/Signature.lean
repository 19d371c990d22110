import BehaviorDiff.Proofs.Diff.Reported
import BehaviorDiff.Proofs.Tree.Address

set_option autoImplicit false

/-!
What a signature tells about a node. The kind and each identifying attribute are announced by a mark
of their own, but nothing keeps a tag or a value from holding such a mark. If it holds none that
could be meant instead, the signature is read back from left to right, and so a move joins nodes of
one tag, one kind and one identity. Otherwise two nodes that agree in none of these may be joined.
-/

namespace BehaviorDiff

/-- How a signature announces a kind. -/
def kindMark (kind : NodeKind) : List Char := '(' :: (kind.label.toList ++ [')', ':'])

/-- How a signature announces an attribute behind another one. -/
def attributeMark (name : String) : List Char := ':' :: (name.toList ++ ['='])

/-- A node whose signature can be read back: its tag holds no mark of a kind, and the value of an
identifying attribute holds no mark of an attribute that is written behind it. -/
structure Node.Legible (node : Node) : Prop where
  tag : ∀ kind, ¬ kindMark kind <:+: node.tag.toList
  values : identityAttributes.Pairwise fun name later =>
    ∀ value ∈ node.attribute? name, ¬ attributeMark later <:+: value.toList

/-- The attributes of some names, each behind its mark. -/
def Node.marked (node : Node) (names : List String) : List Char :=
  names.flatMap fun name =>
    ((node.attribute? name).map fun value => attributeMark name ++ value.toList).getD []

theorem Node.marked_cons (node : Node) (name : String) (later : List String) :
    node.marked (name :: later) =
      ((node.attribute? name).map fun value => attributeMark name ++ value.toList).getD [] ++
        node.marked later :=
  List.flatMap_cons

/-- Texts joined by colons are the texts behind colons, without the first colon. -/
theorem toList_intercalate_colon (texts : List String) :
    (":".intercalate texts).toList = (texts.flatMap fun text => ':' :: text.toList).tail := by
  rw [String.toList_intercalate]
  induction texts with
  | nil => rfl
  | cons text rest ih =>
    cases rest with
    | nil => simp
    | cons next rest =>
      rw [List.map_cons, List.map_cons, List.intercalate_cons_cons, ← List.map_cons, ih]
      simp

theorem Node.flatMap_identity (node : Node) :
    ((node.identity.map fun entry => entry.1 ++ "=" ++ entry.2).flatMap
        fun text => ':' :: text.toList) = node.marked identityAttributes := by
  rw [Node.identity, Node.marked]
  induction identityAttributes with
  | nil => rfl
  | cons name later ih =>
    rw [List.flatMap_cons, ← ih]
    cases h : node.attribute? name <;> simp [h, attributeMark]

/-- A signature is the tag, the mark of the kind and the marked attributes, of whose first mark the
colon is left out. -/
theorem Node.toList_signature (node : Node) :
    node.signature.toList =
      node.tag.toList ++ (kindMark node.kind ++ (node.marked identityAttributes).tail) := by
  have joined := toList_intercalate_colon (node.identity.map fun entry => entry.1 ++ "=" ++ entry.2)
  rw [node.flatMap_identity] at joined
  rw [← joined]
  simp [Node.signature, kindMark]

/-- Marks that begin with one character and do not repeat it end the texts before them, if neither
text holds the mark of the other. -/
theorem append_inj_of_marks {stop : Char} {r r' a b x y : List Char} (once : stop ∉ r)
    (once' : stop ∉ r') (clear : ¬ (stop :: r') <:+: a) (clear' : ¬ (stop :: r) <:+: b)
    (same : a ++ stop :: (r ++ x) = b ++ stop :: (r' ++ y)) : a = b ∧ r ++ x = r' ++ y := by
  -- A longer text would go on with the whole mark behind the shorter one.
  have holds {r x d z : List Char} (once : stop ∉ r) (split : r ++ x = d ++ stop :: z) :
      ∃ e, d = r ++ e := by
    rcases List.append_eq_append_iff.1 split with ⟨e, h, -⟩ | ⟨e, h, atStop⟩
    · exact ⟨e, h⟩
    · cases e with
      | nil => exact ⟨[], by rw [h, List.append_nil, List.append_nil]⟩
      | cons c e =>
        obtain ⟨rfl, -⟩ := List.cons.inj atStop
        exact absurd (by rw [h]; simp) once
  rcases List.append_eq_append_iff.1 same with ⟨d, longer, behind⟩ | ⟨d, longer, behind⟩
  · cases d with
    | nil =>
      rw [List.append_nil] at longer
      exact ⟨longer.symm, (List.cons.inj behind).2⟩
    | cons c d =>
      obtain ⟨rfl, split⟩ := List.cons.inj behind
      obtain ⟨e, rfl⟩ := holds once split
      exact absurd ⟨a, e, by rw [longer]; simp⟩ clear'
  · cases d with
    | nil =>
      rw [List.append_nil] at longer
      exact ⟨longer, (List.cons.inj behind).2.symm⟩
    | cons c d =>
      obtain ⟨rfl, split⟩ := List.cons.inj behind
      obtain ⟨e, rfl⟩ := holds once' split
      exact absurd ⟨b, e, by rw [longer]; simp⟩ clear

theorem kind_eq_of_label {kind kind' : NodeKind} {x y : List Char}
    (same : kind.label.toList ++ ')' :: x = kind'.label.toList ++ ')' :: y) :
    kind = kind' ∧ x = y := by
  have free (kind : NodeKind) : ')' ∉ kind.label.toList := by cases kind <;> decide
  obtain ⟨labels, behind⟩ :=
    append_inj_of_stop (free kind) (free kind') (by simp) (by simp) same
  have read := congrArg NodeKind.ofLabel? (String.toList_inj.1 labels)
  rw [NodeKind.ofLabel?_label, NodeKind.ofLabel?_label] at read
  exact ⟨Option.some.inj read, (List.cons.inj behind).2⟩

/-- An attribute name that does not run into its mark. -/
def PlainName (name : String) : Prop := ':' ∉ name.toList ∧ '=' ∉ name.toList

theorem PlainName.once {name : String} (plain : PlainName name) : ':' ∉ name.toList ++ ['='] := by
  simpa using plain.1

theorem attributeMark_inj {name name' : String} (plain : PlainName name) (plain' : PlainName name')
    {x y : List Char} (same : attributeMark name ++ x = attributeMark name' ++ y) :
    name = name' ∧ x = y := by
  have text : name.toList ++ '=' :: x = name'.toList ++ '=' :: y := by
    simpa [attributeMark] using same
  obtain ⟨names, behind⟩ := append_inj_of_stop plain.2 plain'.2 (by simp) (by simp) text
  exact ⟨String.toList_inj.1 names, (List.cons.inj behind).2⟩

theorem Node.marked_cases (node : Node) (names : List String) :
    node.marked names = [] ∨
      ∃ name ∈ names, ∃ rest, node.marked names = attributeMark name ++ rest := by
  induction names with
  | nil => exact .inl rfl
  | cons name later ih =>
    rw [Node.marked_cons]
    cases node.attribute? name with
    | some value =>
      exact .inr ⟨name, List.mem_cons_self, value.toList ++ node.marked later, by simp⟩
    | none =>
      refine ih.imp id ?_
      rintro ⟨other, hm, rest, h⟩
      exact ⟨other, List.mem_cons_of_mem name hm, rest, h⟩

theorem value_eq_of_marked {names : List String} (plain : ∀ name ∈ names, PlainName name)
    {a b : Node} {value value' : List Char}
    (clear : ∀ name ∈ names, ¬ attributeMark name <:+: value)
    (clear' : ∀ name ∈ names, ¬ attributeMark name <:+: value')
    (same : value ++ a.marked names = value' ++ b.marked names) :
    value = value' ∧ a.marked names = b.marked names := by
  rcases a.marked_cases names with endA | ⟨nextA, memA, restA, goesA⟩
  · rcases b.marked_cases names with endB | ⟨nextB, memB, restB, goesB⟩
    · rw [endA, endB, List.append_nil, List.append_nil] at same
      exact ⟨same, endA.trans endB.symm⟩
    · rw [endA, goesB, List.append_nil, ← List.append_assoc] at same
      exact absurd ⟨value', restB, same.symm⟩ (clear nextB memB)
  · rcases b.marked_cases names with endB | ⟨nextB, memB, restB, goesB⟩
    · rw [endB, goesA, List.append_nil, ← List.append_assoc] at same
      exact absurd ⟨value, restA, same⟩ (clear' nextA memA)
    · rw [goesA, goesB] at same
      obtain ⟨values, behind⟩ := append_inj_of_marks (plain nextA memA).once
        (plain nextB memB).once (clear nextB memB) (clear' nextA memA) same
      rw [goesA, goesB]
      exact ⟨values, congrArg (':' :: ·) behind⟩

/-- Marked attributes are read back one after another. -/
theorem attribute?_eq_of_marked {names : List String} (distinct : names.Nodup)
    (plain : ∀ name ∈ names, PlainName name) {a b : Node}
    (clear : names.Pairwise fun name later =>
      ∀ value ∈ a.attribute? name, ¬ attributeMark later <:+: value.toList)
    (clear' : names.Pairwise fun name later =>
      ∀ value ∈ b.attribute? name, ¬ attributeMark later <:+: value.toList)
    (same : a.marked names = b.marked names) :
    ∀ name ∈ names, a.attribute? name = b.attribute? name := by
  induction names with
  | nil => exact fun _ hm => absurd hm List.not_mem_nil
  | cons name later ih =>
    obtain ⟨plainName, plainLater⟩ := List.forall_mem_cons.1 plain
    obtain ⟨fresh, distinctLater⟩ := List.nodup_cons.1 distinct
    obtain ⟨clearName, clearLater⟩ := List.pairwise_cons.1 clear
    obtain ⟨clearName', clearLater'⟩ := List.pairwise_cons.1 clear'
    -- Without the attribute a node cannot go on with its mark.
    have differ (node : Node) (x : List Char) : node.marked later ≠ attributeMark name ++ x := by
      intro h
      rcases node.marked_cases later with ends | ⟨other, hm, rest, goes⟩
      · rw [ends] at h
        cases h
      · rw [goes] at h
        obtain ⟨rfl, -⟩ := attributeMark_inj (plainLater other hm) plainName h
        exact fresh hm
    rw [Node.marked_cons, Node.marked_cons] at same
    refine List.forall_mem_cons.2 ?_
    cases hereA : a.attribute? name with
    | none =>
      cases hereB : b.attribute? name with
      | none =>
        simp only [hereA, hereB, Option.map_none, Option.getD_none, List.nil_append] at same
        exact ⟨rfl, ih distinctLater plainLater clearLater clearLater' same⟩
      | some value' =>
        simp only [hereA, hereB, Option.map_none, Option.map_some, Option.getD_none,
          Option.getD_some, List.nil_append, List.append_assoc] at same
        exact absurd same (differ a _)
    | some value =>
      cases hereB : b.attribute? name with
      | none =>
        simp only [hereA, hereB, Option.map_none, Option.map_some, Option.getD_none,
          Option.getD_some, List.nil_append, List.append_assoc] at same
        exact absurd same.symm (differ b _)
      | some value' =>
        simp only [hereA, hereB, Option.map_some, Option.getD_some, List.append_assoc] at same
        obtain ⟨values, behind⟩ := value_eq_of_marked plainLater
          (fun other hm => clearName other hm value hereA)
          (fun other hm => clearName' other hm value' hereB) (List.append_cancel_left same)
        rw [String.toList_inj.1 values]
        exact ⟨rfl, ih distinctLater plainLater clearLater clearLater' behind⟩

theorem marked_eq_of_tail_eq {names : List String} {a b : Node}
    (same : (a.marked names).tail = (b.marked names).tail) : a.marked names = b.marked names := by
  have tail_ne (name : String) (rest : List Char) : (attributeMark name ++ rest).tail ≠ [] := by
    simp [attributeMark]
  rcases a.marked_cases names with endA | ⟨nextA, -, restA, goesA⟩
  · rcases b.marked_cases names with endB | ⟨nextB, -, restB, goesB⟩
    · rw [endA, endB]
    · rw [endA, goesB] at same
      exact absurd same.symm (tail_ne nextB restB)
  · rcases b.marked_cases names with endB | ⟨nextB, -, restB, goesB⟩
    · rw [endB, goesA] at same
      exact absurd same (tail_ne nextA restA)
    · rw [goesA, goesB] at same ⊢
      exact congrArg (':' :: ·) same

/-- The signature of a legible node tells its tag, its kind and its identity. -/
theorem Node.Legible.eq_of_signature_eq {a b : Node} (legible : a.Legible) (legible' : b.Legible)
    (same : a.signature = b.signature) :
    a.tag = b.tag ∧ a.kind = b.kind ∧
      ∀ name ∈ identityAttributes, a.attribute? name = b.attribute? name := by
  have once (kind : NodeKind) : '(' ∉ kind.label.toList ++ [')', ':'] := by
    cases kind <;> decide
  have distinct : identityAttributes.Nodup := by decide
  have plain : ∀ name ∈ identityAttributes, PlainName name := by
    rw [identityAttributes]
    simp [PlainName]
  have text := congrArg String.toList same
  rw [Node.toList_signature, Node.toList_signature] at text
  obtain ⟨tags, behindTag⟩ := append_inj_of_marks (once a.kind) (once b.kind)
    (legible.tag b.kind) (legible'.tag a.kind) text
  rw [List.append_assoc, List.append_assoc] at behindTag
  obtain ⟨kinds, behindKind⟩ := kind_eq_of_label behindTag
  have marked := marked_eq_of_tail_eq (List.cons.inj behindKind).2
  exact ⟨String.toList_inj.1 tags, kinds,
    attribute?_eq_of_marked distinct plain legible.values legible'.values marked⟩

theorem moved_mem_changes_iff_relocated {options : CompareOptions} {old new : Node}
    {changes : List Change} (compared : compareTrees options old new = .ok changes)
    {before after : Node} :
    .moved before after ∈ changes ↔ Relocated old.preorder new.preorder before after := by
  obtain ⟨oldIndex, newIndex, ho, hn, rfl⟩ := compareTrees_eq_ok_iff.1 compared
  rw [Moves.resolve, Moves.resolveIn_positionalChanges, ← ho, ← hn]
  exact Moves.moved_mem_iff_relocated (.refl _) (.refl _)

/-- A move joins two nodes of one signature; if both are legible, they have one tag, one kind and
one identity. -/
theorem compareTrees_moves_identical (options : CompareOptions) (old new : Node)
    (changes : List Change) (compared : compareTrees options old new = .ok changes) :
    ∀ before after, .moved before after ∈ changes →
      before.signature = after.signature ∧
        (before.Legible → after.Legible →
          before.tag = after.tag ∧ before.kind = after.kind ∧
            ∀ name ∈ identityAttributes, before.attribute? name = after.attribute? name) := by
  intro before after hm
  have same := ((moved_mem_changes_iff_relocated compared).1 hm).same_signature
  exact ⟨same, fun legible legible' => legible.eq_of_signature_eq legible' same⟩

/-- A sequence with a leaf inside a fallback. -/
def insideFallback (leaf : Draft) : Draft :=
  (Draft.new "Sequence").pushChild ((Draft.new "Fallback").pushChild leaf)

/-- The same sequence with a leaf behind the fallback. -/
def behindFallback (leaf : Draft) : Draft :=
  ((Draft.new "Sequence").pushChild (Draft.new "Fallback")).pushChild leaf

/-- Of two trees with three nodes each, the last ones are joined if they alone have their signature
and each stands where the other tree has no node. -/
theorem exists_moved_last (old new : Node) {a b before a' b' after : Node}
    (hold : old.preorder = [a, b, before]) (hnew : new.preorder = [a', b', after])
    (distinct : (old.preorder.map Node.path).Nodup ∧ (new.preorder.map Node.path).Nodup)
    (apart : before.path ∉ new.preorder.map Node.path ∧
      after.path ∉ old.preorder.map Node.path)
    (same : before.signature = after.signature)
    (only : before.signature ∉ [a, b].map Node.signature ∧
      after.signature ∉ [a', b'].map Node.signature) :
    ∃ changes, compareTrees .all old new = .ok changes ∧ .moved before after ∈ changes := by
  have alone {a b c : Node} (only : c.signature ∉ [a, b].map Node.signature) :
      ∀ node ∈ [a, b, c], node.signature = c.signature → node = c := by
    simp only [List.map_cons, List.map_nil, List.mem_cons, List.not_mem_nil, or_false,
      not_or] at only ⊢
    rintro node (rfl | rfl | rfl) h
    · exact absurd h.symm only.1
    · exact absurd h.symm only.2
    · rfl
  obtain ⟨changes, compared⟩ := exists_changes_of_nodup .all distinct.1 distinct.2
  refine ⟨changes, compared, (moved_mem_changes_iff_relocated compared).2
    ⟨?_, ?_, apart.1, apart.2, same, ?_, ?_⟩⟩
  · simp [hold]
  · simp [hnew]
  · rw [hold]
    exact alone only.1
  · rw [hnew]
    exact alone only.2

/-- A subtree with all identifying attributes and with colons that announce none. -/
def dockSubtree : Draft :=
  (((Draft.new "SubTree").setAttribute "sub_tree_name" "a:ID=b").setAttribute "name"
    "dock:ID=1").setAttribute "ID" "ns:Dock"

theorem legible_dockSubtree (path : String) (depth : Nat) :
    (dockSubtree.buildAt path depth).Legible where
  tag kind := by
    change ¬ kindMark kind <:+: dockSubtree.tag.toList
    cases kind <;> decide +kernel
  values := by
    change identityAttributes.Pairwise fun name later =>
      ∀ value ∈ dockSubtree.attribute? name, ¬ attributeMark later <:+: value.toList
    decide +kernel

theorem compareTrees_moves_dockSubtree :
    ∃ changes before after,
      compareTrees .all (insideFallback dockSubtree).build (behindFallback dockSubtree).build =
          .ok changes ∧
        .moved before after ∈ changes ∧ before.path ≠ after.path ∧ before.Legible ∧
          after.Legible ∧ before.attribute? "name" = some "dock:ID=1" ∧
            after.attribute? "name" = before.attribute? "name" := by
  obtain ⟨changes, compared, moved⟩ := exists_moved_last (insideFallback dockSubtree).build
    (behindFallback dockSubtree).build rfl rfl (by decide) (by decide) (by decide) (by decide)
  have identical := (compareTrees_moves_identical .all _ _ changes compared _ _ moved).2
    (legible_dockSubtree _ _) (legible_dockSubtree _ _)
  exact ⟨changes, _, _, compared, moved, by decide, legible_dockSubtree _ _,
    legible_dockSubtree _ _, by decide, (identical.2.2 "name" (by decide)).symm⟩

/-- An action whose identity holds the mark of a name. -/
def gluedAction : Draft := (Draft.new "Action").setAttribute "ID" "a:name=b"

/-- An action with the identity before that mark and the name behind it. -/
def splitAction : Draft := ((Draft.new "Action").setAttribute "ID" "a").setAttribute "name" "b"

/-- A move may join an action with another one of a different identity, which has a name besides. -/
theorem exists_moved_otherIdentity :
    ∃ changes before after,
      compareTrees .all (insideFallback gluedAction).build (behindFallback splitAction).build =
          .ok changes ∧
        .moved before after ∈ changes ∧
          before.attribute? "ID" = some "a:name=b" ∧ after.attribute? "ID" = some "a" ∧
            before.attribute? "name" = none ∧ after.attribute? "name" = some "b" := by
  obtain ⟨changes, compared, moved⟩ := exists_moved_last (insideFallback gluedAction).build
    (behindFallback splitAction).build rfl rfl (by decide) (by decide) (by decide) (by decide)
  exact ⟨changes, _, _, compared, moved, by decide, by decide, by decide, by decide⟩

/-- An action whose tag holds the mark of a kind. -/
def gluedTag : Draft := Draft.new "Sequence(control):ID=x"

/-- A sequence whose identity ends with the mark of another kind. -/
def splitTag : Draft := (Draft.new "Sequence").setAttribute "ID" "x(action):"

/-- A move may join an action with a sequence. -/
theorem exists_moved_otherKind :
    ∃ changes before after,
      compareTrees .all (insideFallback gluedTag).build (behindFallback splitTag).build =
          .ok changes ∧
        .moved before after ∈ changes ∧ before.tag ≠ after.tag ∧
          before.kind = .action ∧ after.kind = .control := by
  obtain ⟨changes, compared, moved⟩ := exists_moved_last (insideFallback gluedTag).build
    (behindFallback splitTag).build rfl rfl (by decide) (by decide) (by decide) (by decide)
  exact ⟨changes, _, _, compared, moved, by decide, by decide, by decide⟩

end BehaviorDiff
