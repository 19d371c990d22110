import Mathlib.Tactic.ByContra
import BehaviorDiff.Report.Model

set_option autoImplicit false

/-!
What the counts of a report count. A summary has the number of changes of every class, so the
classes that have an old node add up to the old sides and those that have a new node to the new
ones.
-/

namespace BehaviorDiff

namespace Summary

theorem count_add (summary : Summary) (kind other : ChangeKind) :
    (summary.add kind).count other = summary.count other + if kind = other then 1 else 0 := by
  cases kind <;> cases other <;> rfl

theorem count_foldl_add (kinds : List ChangeKind) (summary : Summary) (kind : ChangeKind) :
    (kinds.foldl add summary).count kind = summary.count kind + kinds.count kind := by
  induction kinds generalizing summary with
  | nil => rfl
  | cons first rest ih =>
    rw [List.foldl_cons, ih, count_add, List.count_cons]
    simp only [beq_iff_eq]
    omega

/-- A summary counts the changes of every class. -/
theorem count_of (changes : List Change) (kind : ChangeKind) :
    (of changes).count kind = (changes.map Change.kind).count kind := by
  rw [of, count_foldl_add]
  cases kind <;> exact Nat.zero_add _

/-- Something is counted as changed exactly if a change is of another class than unchanged. -/
theorem changed_pos_iff {changes : List Change} :
    0 < (of changes).changed ↔ ∃ change ∈ changes, change.kind ≠ .unchanged := by
  have counted (kind : ChangeKind) :
      0 < (of changes).count kind ↔ ∃ change ∈ changes, change.kind = kind := by
    rw [count_of, List.count_pos_iff, List.mem_map]
  have sum : (of changes).changed = (of changes).count .added + (of changes).count .removed +
      (of changes).count .modified + (of changes).count .moved := rfl
  constructor
  · intro positive
    obtain ⟨kind, differs, occurs⟩ : ∃ kind, kind ≠ .unchanged ∧ 0 < (of changes).count kind := by
      by_contra none
      simp only [not_exists, not_and, Nat.not_lt, Nat.le_zero] at none
      rw [sum, none .added (by decide), none .removed (by decide), none .modified (by decide),
        none .moved (by decide)] at positive
      exact absurd positive (by decide)
    obtain ⟨change, hm, rfl⟩ := (counted kind).1 occurs
    exact ⟨change, hm, differs⟩
  · rintro ⟨change, hm, differs⟩
    have occurs := (counted change.kind).2 ⟨change, hm, rfl⟩
    rw [sum]
    cases kind : change.kind <;> rw [kind] at occurs differs
    case unchanged => exact absurd rfl differs
    all_goals omega

/-- Every change is of one class. -/
theorem length_eq_sum (changes : List Change) :
    changes.length = (of changes).added + (of changes).removed + (of changes).modified +
      (of changes).moved + (of changes).unchanged := by
  have classes : changes.length =
      (changes.map Change.kind).count .added + (changes.map Change.kind).count .removed +
        (changes.map Change.kind).count .modified + (changes.map Change.kind).count .moved +
          (changes.map Change.kind).count .unchanged := by
    induction changes with
    | nil => rfl
    | cons change rest ih => cases change <;> simp [Change.kind, ih] <;> omega
  rw [classes, ← count_of, ← count_of, ← count_of, ← count_of, ← count_of]
  rfl

/-- If just the changes of one class lack a side, the sides of a list are all other changes. -/
theorem length_filterMap_side (side : Change → Option Node) (lacking : ChangeKind)
    (lacks : ∀ change, side change = none ↔ change.kind = lacking) (changes : List Change) :
    (changes.filterMap side).length + (of changes).count lacking = changes.length := by
  rw [count_of]
  induction changes with
  | nil => rfl
  | cons change rest ih =>
    rw [List.map_cons, List.count_cons, List.length_cons, ← ih]
    cases found : side change with
    | none =>
      rw [List.filterMap_cons_none found, if_pos (beq_iff_eq.2 ((lacks change).1 found))]
      omega
    | some node =>
      have other : change.kind ≠ lacking := fun same => by
        rw [(lacks change).2 same] at found
        cases found
      rw [List.filterMap_cons_some found, if_neg (mt beq_iff_eq.1 other), List.length_cons]
      omega

theorem length_old_sides (changes : List Change) :
    (changes.filterMap Change.old?).length =
      (of changes).removed + (of changes).modified + (of changes).moved +
        (of changes).unchanged := by
  have sides := length_filterMap_side Change.old? .added
    (fun change => by cases change <;> simp [Change.old?, Change.kind]) changes
  have added : (of changes).count .added = (of changes).added := rfl
  have total := length_eq_sum changes
  omega

theorem length_new_sides (changes : List Change) :
    (changes.filterMap Change.new?).length =
      (of changes).added + (of changes).modified + (of changes).moved +
        (of changes).unchanged := by
  have sides := length_filterMap_side Change.new? .removed
    (fun change => by cases change <;> simp [Change.new?, Change.kind]) changes
  have removed : (of changes).count .removed = (of changes).removed := rfl
  have total := length_eq_sum changes
  omega

end Summary

end BehaviorDiff
