import Mathlib.Data.Finset.Card
import Mathlib.Data.Prod.Lex
import BehaviorDiff.Proofs.Text.ByteOrder
import BehaviorDiff.Selection

set_option autoImplicit false

/-!
The chosen tree as an optimum. Candidates are compared by their points, then by being the default
tree, then by the bytes of their names: a linear order, of which the walk over the candidates keeps
the first so far. So the choice is the first of all candidates, whatever the order in which either
document defines its trees.
-/

namespace BehaviorDiff

/-- The hints that a node of a tree has as its identity or as its name. -/
def hintsIn (hints : List String) (root : Node) : Finset String :=
  hints.toFinset.filter fun hint =>
    ∃ node ∈ root.preorder, node.attribute? "ID" = some hint ∨ node.attribute? "name" = some hint

theorem mem_identifiers_iff {root : Node} {text : String} :
    text ∈ root.identifiers ↔ ∃ node ∈ root.preorder,
      node.attribute? "ID" = some text ∨ node.attribute? "name" = some text := by
  rw [Node.identifiers, Node.nodes_eq_preorder, List.mem_flatMap]
  simp [hintAttributes]

theorem nodup_eraseDups (texts : List String) : texts.eraseDups.Nodup := by
  have keys := (OrderedMap.ofList (texts.map fun text => (text, ()))).keys_nodup
  have texts_eq : (texts.map fun text => (text, ())).map Prod.fst = texts := by
    rw [List.map_map]
    exact List.map_id texts
  rwa [OrderedMap.keys_ofList, texts_eq] at keys

theorem hintScore_eq_card (hints : List String) (root : Node) :
    hintScore hints root = (hintsIn hints root).card := by
  rw [hintScore, ← List.toFinset_card_of_nodup (nodup_eraseDups _)]
  congr 1
  ext text
  simp [hintsIn, mem_identifiers_iff, and_comm]

namespace Selection

/-- Whether a candidate is to be chosen rather than another: it has more points, or as many and the
other is not the default tree while it is, or while its name comes first. -/
def Precedes (defaultTree : String) (a b : Selection) : Prop :=
  b.score < a.score ∨ a.score = b.score ∧ b.name ≠ defaultTree ∧
    (a.name = defaultTree ∨ BytesBefore a.name b.name)

/-- The place of a candidate in the order of choice. -/
def rank (defaultTree : String) (s : Selection) : ℕᵒᵈ ×ₗ Bool ×ₗ String :=
  toLex (OrderDual.toDual s.score, toLex (decide (s.name ≠ defaultTree), s.name))

theorem rank_lt_rank_iff {defaultTree : String} {a b : Selection} :
    a.rank defaultTree < b.rank defaultTree ↔ a.Precedes defaultTree b := by
  rw [rank, rank, Prod.Lex.toLex_lt_toLex, Prod.Lex.toLex_lt_toLex, Precedes, ← lt_iff_bytesBefore]
  by_cases ha : a.name = defaultTree
  · by_cases hb : b.name = defaultTree
    · simp [ha, hb]
    · simp [ha, hb]
  · by_cases hb : b.name = defaultTree
    · simp [ha, hb]
    · simp [ha, hb]

theorem name_eq_of_rank_eq {defaultTree : String} {a b : Selection}
    (h : a.rank defaultTree = b.rank defaultTree) : a.name = b.name :=
  congrArg (fun place => (ofLex (ofLex place).2).2) h

theorem beats_iff {defaultTree : String} {a b : Selection} :
    a.beats defaultTree b = true ↔ a.Precedes defaultTree b := by
  rw [beats, Precedes, ← lt_iff_bytesBefore]
  by_cases score : a.score = b.score
  · by_cases default : b.name = defaultTree
    · simp [score, default]
    · simp [score, default]
  · simp [score]

/-- The walk keeps a candidate that none of those before it precedes. -/
theorem exists_foldl_better (defaultTree : String) (candidates : List Selection)
    (best : Selection) :
    ∃ result, candidates.foldl (better defaultTree) (some best) = some result ∧
      result ∈ best :: candidates ∧
        ∀ other ∈ best :: candidates, result.rank defaultTree ≤ other.rank defaultTree := by
  induction candidates generalizing best with
  | nil => exact ⟨best, rfl, List.mem_cons_self, by simp⟩
  | cons candidate rest ih =>
    rw [List.foldl_cons, better]
    split
    · next wins =>
      have below := (rank_lt_rank_iff.2 (beats_iff.1 wins)).le
      obtain ⟨result, h, hm, first⟩ := ih candidate
      refine ⟨result, h, List.mem_cons_of_mem best hm, List.forall_mem_cons.2 ⟨?_, first⟩⟩
      exact (first candidate List.mem_cons_self).trans below
    · next loses =>
      have below := not_lt.1 fun h => loses (beats_iff.2 (rank_lt_rank_iff.1 h))
      obtain ⟨result, h, hm, first⟩ := ih best
      obtain ⟨here, later⟩ := List.forall_mem_cons.1 first
      refine ⟨result, h, ?_, List.forall_mem_cons.2
        ⟨here, List.forall_mem_cons.2 ⟨here.trans below, later⟩⟩⟩
      rcases List.mem_cons.1 hm with rfl | hm
      · exact List.mem_cons_self
      · exact List.mem_cons_of_mem best (List.mem_cons_of_mem candidate hm)

end Selection

/-- A tree that both documents define, with the number of hints in its new version. -/
structure IsCandidate (hints : List String) (old new : Document) (s : Selection) : Prop where
  known : old.contains s.name = true
  points : ∃ root, new.get? s.name = some root ∧ s.score = (hintsIn hints root).card

/-- A candidate that is to be chosen rather than any other. -/
structure Optimal (hints : List String) (defaultTree : String) (old new : Document)
    (s : Selection) : Prop where
  candidate : IsCandidate hints old new s
  first : ∀ other, IsCandidate hints old new other → other.name ≠ s.name →
    s.Precedes defaultTree other

section Candidates
variable {hints : List String} {defaultTree : String} {old new : Document}

theorem mem_selectionCandidates_iff {rule : SelectionRule} {s : Selection} :
    s ∈ selectionCandidates rule old new ↔ IsCandidate rule.hints old new s := by
  rw [selectionCandidates, List.mem_map]
  constructor
  · rintro ⟨⟨name, root⟩, hm, rfl⟩
    obtain ⟨defined, known⟩ := List.mem_filter.1 hm
    exact ⟨known, root, Document.mem_definitions_iff.1 defined, hintScore_eq_card _ _⟩
  · rintro ⟨known, root, defined, points⟩
    refine ⟨(s.name, root), List.mem_filter.2 ⟨Document.mem_definitions_iff.2 defined, known⟩, ?_⟩
    rw [hintScore_eq_card, ← points]

theorem IsCandidate.eq_of_name_eq {a b : Selection} (ha : IsCandidate hints old new a)
    (hb : IsCandidate hints old new b) (same : a.name = b.name) : a = b := by
  obtain ⟨name, score⟩ := a
  obtain ⟨name', score'⟩ := b
  obtain ⟨-, root, found, points⟩ := ha
  obtain ⟨-, root', found', points'⟩ := hb
  obtain rfl : name = name' := same
  cases found.symm.trans found'
  rw [show score = score' from points.trans points'.symm]

theorem foldl_candidates_eq_some_iff {s : Selection} :
    (selectionCandidates ⟨none, hints, defaultTree⟩ old new).foldl (Selection.better defaultTree)
        none = some s ↔ Optimal hints defaultTree old new s := by
  have members {s : Selection} :
      s ∈ selectionCandidates ⟨none, hints, defaultTree⟩ old new ↔ IsCandidate hints old new s :=
    mem_selectionCandidates_iff
  -- Only the members of the walk matter from here on.
  revert members
  generalize selectionCandidates ⟨none, hints, defaultTree⟩ old new = candidates
  intro members
  cases candidates with
  | nil =>
    constructor
    · intro h
      cases h
    · intro optimal
      exact absurd (members.2 optimal.candidate) List.not_mem_nil
  | cons candidate rest =>
    obtain ⟨result, run, hm, first⟩ := Selection.exists_foldl_better defaultTree rest candidate
    have optimal : Optimal hints defaultTree old new result := by
      refine ⟨members.1 hm, fun other ho apart => Selection.rank_lt_rank_iff.1 ?_⟩
      refine (first other (members.2 ho)).lt_of_ne fun same => apart ?_
      exact (Selection.name_eq_of_rank_eq same).symm
    change rest.foldl (Selection.better defaultTree) (some candidate) = some s ↔ _
    rw [run, Option.some.injEq]
    constructor
    · rintro rfl
      exact optimal
    · intro other
      by_contra apart
      have names : s.name ≠ result.name := fun same =>
        apart (optimal.candidate.eq_of_name_eq other.candidate same.symm)
      have below := Selection.rank_lt_rank_iff.2 (optimal.first s other.candidate names)
      have above := Selection.rank_lt_rank_iff.2 (other.first result optimal.candidate names.symm)
      exact lt_asymm below above

theorem selectTree_eq_ok_iff {s : Selection} :
    selectTree ⟨none, hints, defaultTree⟩ old new = .ok s ↔
      Optimal hints defaultTree old new s := by
  rw [← foldl_candidates_eq_some_iff, selectTree]
  cases (selectionCandidates ⟨none, hints, defaultTree⟩ old new).foldl
    (Selection.better defaultTree) none <;> simp

theorem exists_selection_iff :
    (∃ s, selectTree ⟨none, hints, defaultTree⟩ old new = .ok s) ↔
      ∃ name, old.contains name = true ∧ new.contains name = true := by
  constructor
  · rintro ⟨s, h⟩
    obtain ⟨⟨known, root, found, -⟩, -⟩ := selectTree_eq_ok_iff.1 h
    exact ⟨s.name, known, Option.isSome_iff_exists.2 ⟨root, found⟩⟩
  · rintro ⟨name, known, shared⟩
    obtain ⟨root, found⟩ := Option.isSome_iff_exists.1 shared
    have hm : ⟨name, (hintsIn hints root).card⟩ ∈
        selectionCandidates ⟨none, hints, defaultTree⟩ old new :=
      mem_selectionCandidates_iff.2 ⟨known, root, found, rfl⟩
    rw [selectTree]
    cases candidates : selectionCandidates ⟨none, hints, defaultTree⟩ old new with
    | nil =>
      rw [candidates] at hm
      exact absurd hm List.not_mem_nil
    | cons candidate rest =>
      obtain ⟨result, run, -⟩ := Selection.exists_foldl_better defaultTree rest candidate
      exact ⟨result, by rw [List.foldl_cons, Selection.better, run]⟩

section Orders
variable {old' new' : Document} (oldPerm : old'.definitions.Perm old.definitions)
  (newPerm : new'.definitions.Perm new.definitions)

include oldPerm newPerm

theorem isCandidate_iff_of_perm {s : Selection} :
    IsCandidate hints old' new' s ↔ IsCandidate hints old new s := by
  have known : old'.contains s.name = old.contains s.name :=
    congrArg Option.isSome (Document.get?_eq_of_perm oldPerm s.name)
  have root := Document.get?_eq_of_perm newPerm s.name
  constructor
  · rintro ⟨h, points⟩
    exact ⟨known ▸ h, root ▸ points⟩
  · rintro ⟨h, points⟩
    exact ⟨known ▸ h, root ▸ points⟩

theorem optimal_iff_of_perm {s : Selection} :
    Optimal hints defaultTree old' new' s ↔ Optimal hints defaultTree old new s := by
  have candidate {s : Selection} :
      IsCandidate hints old' new' s ↔ IsCandidate hints old new s :=
    isCandidate_iff_of_perm oldPerm newPerm
  constructor
  · rintro ⟨h, first⟩
    exact ⟨candidate.1 h, fun other ho => first other (candidate.2 ho)⟩
  · rintro ⟨h, first⟩
    exact ⟨candidate.2 h, fun other ho => first other (candidate.1 ho)⟩

/-- The choice does not depend on the order in which the documents define their trees. -/
theorem selectTree_eq_of_perm (rule : SelectionRule) :
    selectTree rule old' new' = selectTree rule old new := by
  obtain ⟨explicit, hints, defaultTree⟩ := rule
  cases explicit with
  | some name =>
    simp only [selectTree, Document.get?_eq_of_perm oldPerm, Document.get?_eq_of_perm newPerm]
  | none =>
    have walk : (selectionCandidates ⟨none, hints, defaultTree⟩ old' new').foldl
          (Selection.better defaultTree) none =
        (selectionCandidates ⟨none, hints, defaultTree⟩ old new).foldl
          (Selection.better defaultTree) none := by
      apply Option.ext
      intro s
      rw [foldl_candidates_eq_some_iff, foldl_candidates_eq_some_iff,
        optimal_iff_of_perm oldPerm newPerm]
    rw [selectTree, selectTree, walk]

end Orders

end Candidates

/-- Without a name a tree is chosen exactly if the documents share one, and it is the one to be
chosen rather than any other: by its points, then as the default tree, then by the bytes of its
name. The order in which the documents define their trees does not matter. A name is chosen exactly
if both documents define it; the new document is blamed first. -/
theorem selectTree_optimum (old new : Document) (hints : List String) (defaultTree : String) :
    ((∃ s, selectTree ⟨none, hints, defaultTree⟩ old new = .ok s) ↔
      ∃ name, old.contains name = true ∧ new.contains name = true) ∧
    (∀ s, selectTree ⟨none, hints, defaultTree⟩ old new = .ok s ↔
      Optimal hints defaultTree old new s) ∧
    (∀ explicit (old' new' : Document), old'.definitions.Perm old.definitions →
      new'.definitions.Perm new.definitions →
        selectTree ⟨explicit, hints, defaultTree⟩ old' new' =
          selectTree ⟨explicit, hints, defaultTree⟩ old new) ∧
    ∀ name,
      ((∃ s, selectTree ⟨some name, hints, defaultTree⟩ old new = .ok s) ↔
        old.contains name = true ∧ new.contains name = true) ∧
      (∀ s, selectTree ⟨some name, hints, defaultTree⟩ old new = .ok s → s.name = name ∧
        ∃ root, new.get? name = some root ∧ s.score = (hintsIn hints root).card) ∧
      (new.contains name = false →
        selectTree ⟨some name, hints, defaultTree⟩ old new = .error (.notFound name .new)) ∧
      (new.contains name = true → old.contains name = false →
        selectTree ⟨some name, hints, defaultTree⟩ old new = .error (.notFound name .old)) := by
  refine ⟨exists_selection_iff, fun s => selectTree_eq_ok_iff,
    fun explicit old' new' oldPerm newPerm => selectTree_eq_of_perm oldPerm newPerm _,
    fun name => ?_⟩
  have oldKnown : old.contains name = (old.get? name).isSome := rfl
  have newKnown : new.contains name = (new.get? name).isSome := rfl
  cases inNew : new.get? name with
  | none => simp [selectTree, oldKnown, newKnown, inNew]
  | some root =>
    cases inOld : old.get? name with
    | none => simp [selectTree, oldKnown, newKnown, inNew, inOld]
    | some _ =>
      simp only [selectTree, oldKnown, newKnown, inNew, inOld, hintScore_eq_card]
      refine ⟨by simp, ?_, by simp, by simp⟩
      intro s h
      cases h
      exact ⟨rfl, root, rfl, rfl⟩

/-- A sequence around an action with an identity and a name. -/
def hintedTree (id name : String) : Node :=
  ((Draft.new "Sequence").pushChild
    (((Draft.new "Action").setAttribute "ID" id).setAttribute "name" name)).build

/-- Three trees with one of the hints `a` and `b`, one with neither, and one with both that the
other document lacks. -/
def hintedBefore : Document :=
  .ofList [("Zoo", hintedTree "a" "a"), ("Main", hintedTree "" "b"), ("Dock", hintedTree "b" "c"),
    ("Idle", hintedTree "c" "c"), ("Gone", hintedTree "a" "b")]

/-- The shared trees in another order, and one with both hints that is new. -/
def hintedAfter : Document :=
  .ofList [("Dock", hintedTree "b" "c"), ("Fresh", hintedTree "a" "b"),
    ("Idle", hintedTree "c" "c"), ("Zoo", hintedTree "a" "a"), ("Main", hintedTree "" "b")]

/-- The new document with its trees in the reverse order. -/
def hintedAfterReversed : Document :=
  .ofList [("Main", hintedTree "" "b"), ("Zoo", hintedTree "a" "a"), ("Idle", hintedTree "c" "c"),
    ("Fresh", hintedTree "a" "b"), ("Dock", hintedTree "b" "c")]

/-- Among the trees with one hint the default tree is chosen, in either order; a tree of one
document is missed in the other. -/
theorem selectTree_optimum_hinted :
    hintedAfterReversed.definitions.Perm hintedAfter.definitions ∧
      Optimal ["a", "b"] "Main" hintedBefore hintedAfter ⟨"Main", 1⟩ ∧
        selectTree ⟨none, ["a", "b"], "Main"⟩ hintedBefore hintedAfterReversed = .ok ⟨"Main", 1⟩ ∧
          (∃ root, hintedAfter.get? "Idle" = some root ∧ 0 = (hintsIn ["a", "b"] root).card) ∧
          selectTree ⟨some "Gone", ["a", "b"], "Main"⟩ hintedBefore hintedAfter =
            .error (.notFound "Gone" .new) ∧
          selectTree ⟨some "Fresh", ["a", "b"], "Main"⟩ hintedBefore hintedAfter =
            .error (.notFound "Fresh" .old) := by
  have reversed : hintedAfterReversed.definitions.Perm hintedAfter.definitions := by
    have same : hintedAfterReversed.definitions = hintedAfter.definitions.reverse := by rfl
    rw [same]
    exact List.reverse_perm _
  have chosen : selectTree ⟨none, ["a", "b"], "Main"⟩ hintedBefore hintedAfter =
      .ok ⟨"Main", 1⟩ := by decide +kernel
  obtain ⟨-, optimal_iff, orders, named⟩ :=
    selectTree_optimum hintedBefore hintedAfter ["a", "b"] "Main"
  obtain ⟨-, idle, -, -⟩ := named "Idle"
  obtain ⟨-, -, gone, -⟩ := named "Gone"
  obtain ⟨-, -, -, fresh⟩ := named "Fresh"
  refine ⟨reversed, (optimal_iff _).1 chosen, ?_, (idle ⟨"Idle", 0⟩ (by decide +kernel)).2,
    gone (by decide +kernel), fresh (by decide +kernel) (by decide +kernel)⟩
  rw [orders none hintedBefore hintedAfterReversed (.refl _) reversed, chosen]

example : selectTree ⟨none, ["a", "b"], "None"⟩ hintedBefore hintedAfter = .ok ⟨"Dock", 1⟩ := by
  decide +kernel

end BehaviorDiff
