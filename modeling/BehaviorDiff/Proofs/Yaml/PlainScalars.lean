import BehaviorDiff.Proofs.Yaml.Characters

set_option autoImplicit false

/-!
Plain scalars that stand in one line. The reader takes the characters of such a scalar one after the
other, whatever follows them; what follows decides where the scalar ends.
-/

namespace BehaviorDiff.Yaml

namespace Gap

variable {gap : Gap} {c : Char}

@[simp]
theorem isLines_addBlank : (gap.addBlank c).isLines = gap.isLines := by
  cases gap <;> rfl

theorem addBlank_ne_none : gap.addBlank c ≠ .none := by
  cases gap <;> simp [addBlank]

theorem text_addBlank (inLine : gap.isLines = false) : (gap.addBlank c).text = gap.text ++ [c] := by
  cases gap with
  | none => rfl
  | blanks text => rfl
  | lines first more => exact absurd inLine (by simp [isLines])

end Gap

theorem ScalarText.map_after_after (first second : List Char) (found : Except Fault ScalarText) :
    (found.map (·.after second)).map (·.after first) = found.map (·.after (first ++ second)) := by
  cases found with
  | error fault => rfl
  | ok scalar => simp [Except.map, ScalarText.after]

theorem ScalarText.map_after_ok (text more : List Char) (behind : Cursor) (brokenLine : Bool) :
    (Except.ok ⟨more, behind, brokenLine⟩ : Except Fault ScalarText).map (·.after text) =
      .ok ⟨text ++ more, behind, brokenLine⟩ :=
  rfl

theorem endsWord_append_eq_false {front : List Char} (back : List Char)
    (goesOn : endsWord front = false) : endsWord (front ++ back) = false := by
  cases front with
  | nil => exact absurd goesOn (by decide)
  | cons c front => exact goesOn

open Printer

/-- A character within a plain scalar does not end it. -/
theorem endsPlain_eq_false {indent : Nat} {gap : Gap} {place : Place} {c : Char} {rest : List Char}
    (goesOn : endsInside (gap ≠ .none) (c :: rest) = false) (outer : indent ≤ 1)
    (begun : gap = .none ∨ 0 < place.column) (tail : List Char) :
    endsPlain false indent gap place c (rest ++ tail) = false := by
  rw [endsInside, Bool.or_eq_false_iff, Bool.or_eq_false_iff] at goesOn
  obtain ⟨⟨noColon, noSign⟩, -⟩ := goesOn
  have noColon : (c = ':' && endsWord (rest ++ tail)) = false := by
    cases h : endsWord rest with
    | true =>
      rw [h, Bool.and_true] at noColon
      rw [noColon, Bool.false_and]
    | false => rw [endsWord_append_eq_false tail h, Bool.and_false]
  rw [endsPlain, noColon, Bool.false_and, Bool.or_false, Bool.or_false]
  rcases begun with rfl | behind
  · rfl
  · have noSign : (decide (gap ≠ .none) && decide (c = '#')) = false := by
      rw [Bool.and_comm]
      exact noSign
    have inside : decide (place.column < indent) = false := decide_eq_false (by omega)
    have notFirst : decide (place.column = 0) = false := decide_eq_false (Nat.ne_of_gt behind)
    rw [inside, notFirst, Bool.and_false, Bool.false_and, Bool.false_or, Bool.or_false]
    exact noSign

/-- A plain scalar in one line is read to its end. -/
theorem readPlain_append {indent : Nat} {start place : Place} {gap : Gap} {text : List Char}
    (shown : ∀ c ∈ text, isPrintable c = true) (inLine : ∀ c ∈ text, isBreak c = false)
    (goesOn : endsInside (gap ≠ .none) text = false) (noBreak : gap.isLines = false)
    (outer : indent ≤ 1) (begun : gap = .none ∨ 0 < place.column) (filled : text ≠ [])
    (closed : text.getLast? ≠ some ' ') (tail : List Char) :
    readPlain false indent start gap place (text ++ tail) =
      (readPlain false indent start .none (place.behind text) tail).map
        (·.after (gap.text ++ text)) := by
  -- a blank joins the gap, which the next other character puts in front of itself
  induction text generalizing gap place with
  | nil => exact absurd rfl filled
  | cons c rest ih =>
    rw [List.forall_mem_cons] at shown inLine
    have noHalf := isHalfBreak_eq_false (rest ++ tail) (isPrintable_iff.1 shown.1).2.2.1
    have later : endsInside (isBlank c || isBreak c) rest = false := by
      rw [endsInside, Bool.or_eq_false_iff] at goesOn
      exact goesOn.2
    rw [inLine.1, Bool.or_false] at later
    rw [List.cons_append, readPlain, if_neg (by simp [noHalf]), if_neg (by simp [inLine.1]),
      Place.behind_cons_of_inLine inLine.1]
    cases blank : isBlank c with
    | true =>
      obtain rfl := (isBlank_iff_of_isPrintable shown.1).1 blank
      have more : rest ≠ [] := by
        rintro rfl
        exact closed rfl
      rw [if_pos rfl, noBreak, Bool.false_and, Bool.false_and, if_neg Bool.false_ne_true]
      rw [ih shown.2 inLine.2 (by simpa [Gap.addBlank_ne_none, blank] using later)
        (by simpa using noBreak) (.inr (Nat.succ_pos _)) more
        (by rwa [List.getLast?_cons_of_ne_nil more] at closed)]
      rw [Gap.text_addBlank noBreak, List.append_assoc, List.singleton_append]
    | false =>
      rw [if_neg Bool.false_ne_true, endsPlain_eq_false goesOn outer begun, Bool.false_and,
        Bool.false_and, if_neg Bool.false_ne_true, if_neg Bool.false_ne_true]
      by_cases more : rest = []
      · subst more
        rfl
      · rw [ih shown.2 inLine.2 (by simpa [blank] using later) rfl (.inl rfl) more
          (by rwa [List.getLast?_cons_of_ne_nil more] at closed)]
        rw [ScalarText.map_after_after, Gap.text, List.nil_append, List.append_assoc,
          List.singleton_append]

namespace Printer

/-- A text that stands for itself in a line. -/
structure Plain (text : List Char) : Prop where
  shown : ∀ c ∈ text, isPrintable c = true
  inLine : ∀ c ∈ text, isBreak c = false
  filled : text ≠ []
  opened : text.head? ≠ some ' '
  closed : text.getLast? ≠ some ' '
  unmarked : beginsWithMark text = false
  goesOn : endsInside false text = false

instance (text : List Char) : Decidable (Plain text) :=
  decidable_of_iff
    (text.all isPrintable = true ∧ text.any isBreak = false ∧ text ≠ [] ∧
      text.head? ≠ some ' ' ∧ text.getLast? ≠ some ' ' ∧ beginsWithMark text = false ∧
        endsInside false text = false)
    ⟨fun ⟨shown, inLine, filled, opened, closed, unmarked, goesOn⟩ =>
      ⟨List.all_eq_true.1 shown, by simpa using inLine, filled, opened, closed, unmarked, goesOn⟩,
    fun ⟨shown, inLine, filled, opened, closed, unmarked, goesOn⟩ =>
      ⟨List.all_eq_true.2 shown, by simpa using inLine, filled, opened, closed, unmarked, goesOn⟩⟩

theorem plain_of_styleOf {text : List Char} (style : styleOf text = .plain) : Plain text := by
  rw [styleOf] at style
  split at style
  · split at style <;> cases style
  · split at style
    · cases style
    · rename_i quiet
      split at style
      · rename_i chosen
        simp only [Bool.or_eq_true, not_or, Bool.not_eq_true] at quiet
        simp only [isPlain, Bool.and_eq_true, Bool.not_eq_true', decide_eq_true_eq] at chosen
        obtain ⟨⟨meaning, -⟩, ⟨⟨inLine, edges⟩, unmarked⟩, goesOn⟩ := chosen
        rw [hasLooseEdge, Bool.or_eq_false_iff] at edges
        refine ⟨isPrintable_of_needsEscapes_eq_false quiet.1, by simpa using inLine, ?_, ?_, ?_,
          unmarked, goesOn⟩
        · rintro rfl
          exact absurd meaning (by decide)
        · intro opened
          simp [opened] at edges
        · intro closed
          simp [closed] at edges
      · cases style

/-- How a plain text begins: with no mark, or with one that stands in front of something. -/
theorem unmarked_cons {c : Char} {text : List Char}
    (unmarked : beginsWithMark (c :: text) = false) :
    isIndicator c = false ∨ (c = '-' ∨ c = '?' ∨ c = ':') ∧ endsWord text = false := by
  rw [beginsWithMark, Bool.or_eq_false_iff] at unmarked
  by_cases mark : c = '-' ∨ c = '?' ∨ c = ':'
  · exact .inr ⟨mark, by simpa [mark, or_assoc] using unmarked.2⟩
  · exact .inl (by simpa [mark, or_assoc] using unmarked.2)

theorem beginsLine_cons {c : Char} (noBlank : isBlank c = false) (noBreak : isBreak c = false)
    (noSign : c ≠ '#') (noMark : c ≠ byteOrderMark) (rest : List Char) :
    BeginsLine (c :: rest) := by
  intro d hm
  obtain rfl := Option.some.inj hm
  exact ⟨noBlank, noBreak, noSign, noMark⟩

theorem Plain.beginsLine {text : List Char} (plain : Plain text) (rest : List Char) :
    BeginsLine (text ++ rest) := by
  cases text with
  | nil => exact absurd rfl plain.filled
  | cons c text =>
    have shown := plain.shown c List.mem_cons_self
    have noMark := (isPrintable_iff.1 shown).2.2.2.2
    refine beginsLine_cons ?_ (plain.inLine c List.mem_cons_self) ?_ noMark _
    · rw [← Bool.not_eq_true, isBlank_iff_of_isPrintable shown]
      exact fun space => plain.opened (congrArg some space)
    · rintro rfl
      rcases unmarked_cons plain.unmarked with noMark | ⟨mark, -⟩
      · exact absurd noMark (by decide)
      · exact absurd mark (by decide)

variable {indent : Nat} {text rest : List Char} {start place : Place}

theorem Plain.readPlain_append (plain : Plain text) (outer : indent ≤ 1) (tail : List Char) :
    readPlain false indent start .none place (text ++ tail) =
      (readPlain false indent start .none (place.behind text) tail).map (·.after text) := by
  have goesOn : endsInside (Gap.none ≠ .none) text = false := plain.goesOn
  exact Yaml.readPlain_append plain.shown plain.inLine goesOn rfl outer (.inl rfl) plain.filled
    plain.closed tail

/-- A plain value ends with its line. -/
theorem Plain.readPlain_value (plain : Plain text) (next : BeginsLine rest) :
    readPlain false 1 start .none place (text ++ '\n' :: rest) =
      .ok ⟨text, ⟨place.behind (text ++ ['\n']), rest⟩, true⟩ := by
  have ends : readPlain false 1 start .none (place.behind text) ('\n' :: rest) =
      .ok ⟨[], ⟨(place.behind text).nextLine '\n', rest⟩, true⟩ := by
    rw [readPlain, if_neg (by simp [isHalfBreak]), if_pos (by decide)]
    cases rest with
    | nil => rfl
    | cons c rest =>
      obtain ⟨noBlank, noBreak, -, -⟩ := next c rfl
      have noHalf := isHalfBreak_eq_false rest (ne_return_of_isBreak_eq_false noBreak)
      rw [readPlain, if_neg (by simp [noHalf]), if_neg (by simp [noBreak]),
        if_neg (by simp [noBlank]), if_pos (by simp [endsPlain, Gap.addBreak, Place.nextLine])]
      rfl
  rw [plain.readPlain_append (Nat.le_refl 1), ends, Place.behind_append,
    ScalarText.map_after_ok, List.append_nil]
  rfl

/-- A plain key ends at its colon. -/
theorem Plain.readPlain_key (plain : Plain text) (outer : indent ≤ 1)
    (ends : endsWord rest = true) :
    readPlain false indent start .none place (text ++ ':' :: rest) =
      .ok ⟨text, ⟨place.behind text, ':' :: rest⟩, false⟩ := by
  have colon : readPlain false indent start .none (place.behind text) (':' :: rest) =
      .ok ⟨[], ⟨place.behind text, ':' :: rest⟩, false⟩ := by
    rw [readPlain, if_neg (by simp [isHalfBreak]), if_neg (by decide), if_neg (by decide),
      if_pos (by simp [endsPlain, ends])]
    rfl
  rw [plain.readPlain_append outer, colon, ScalarText.map_after_ok, List.append_nil]

end Printer

end BehaviorDiff.Yaml
