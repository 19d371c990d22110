import BehaviorDiff.Yaml.Printer

set_option autoImplicit false

/-!
What a writer relies on when it lets a character stand for itself, and how a text moves a reader on.
A text that is written by characters that can be shown has no carriage return, so each of its line
ends is one character.
-/

namespace BehaviorDiff.Yaml

theorem isHalfBreak_eq_false {c : Char} (rest : List Char) (other : c ≠ '\r') :
    isHalfBreak c rest = false := by
  simp [isHalfBreak, other]

theorem isBreak_iff {c : Char} :
    isBreak c = true ↔
      c = '\n' ∨ c = '\r' ∨ c = nextLine ∨ c = lineSeparator ∨ c = paragraphSeparator := by
  simp [isBreak, or_assoc]

theorem ne_return_of_isBreak_eq_false {c : Char} (inLine : isBreak c = false) : c ≠ '\r' := by
  rintro rfl
  exact absurd inLine (by decide)

/-- What a line may begin with: neither a blank nor a comment. Nothing may follow either. -/
def BeginsLine (text : List Char) : Prop :=
  ∀ c ∈ text.head?, isBlank c = false ∧ isBreak c = false ∧ c ≠ '#' ∧ c ≠ byteOrderMark

namespace Place

/-- The place behind a text each of whose line ends is one character. -/
def behind (place : Place) (text : List Char) : Place :=
  text.foldl (fun place c => if isBreak c then place.nextLine c else place.next c) place

variable {place : Place} {c : Char} {text : List Char}

@[simp]
theorem behind_nil : place.behind [] = place := rfl

@[simp]
theorem behind_append (first second : List Char) :
    place.behind (first ++ second) = (place.behind first).behind second :=
  List.foldl_append

theorem behind_cons_of_isBreak (ends : isBreak c = true) :
    place.behind (c :: text) = (place.nextLine c).behind text := by
  rw [behind, List.foldl_cons, if_pos ends, behind]

theorem behind_cons_of_inLine (inLine : isBreak c = false) :
    place.behind (c :: text) = (place.next c).behind text := by
  rw [behind, List.foldl_cons, if_neg (by simp [inLine]), behind]

theorem line_le_behind : place.line ≤ (place.behind text).line := by
  induction text generalizing place with
  | nil => exact Nat.le_refl _
  | cons c text ih =>
    cases h : isBreak c with
    | true =>
      rw [behind_cons_of_isBreak h]
      exact Nat.le_trans (Nat.le_succ _) (@ih (place.nextLine c))
    | false =>
      rw [behind_cons_of_inLine h]
      exact @ih (place.next c)

theorem line_behind (inLine : ∀ c ∈ text, isBreak c = false) :
    (place.behind text).line = place.line := by
  induction text generalizing place with
  | nil => rfl
  | cons c text ih =>
    rw [List.forall_mem_cons] at inLine
    rw [behind_cons_of_inLine inLine.1, ih inLine.2]
    rfl

theorem column_behind (inLine : ∀ c ∈ text, isBreak c = false) :
    (place.behind text).column = place.column + text.length := by
  induction text generalizing place with
  | nil => rfl
  | cons c text ih =>
    rw [List.forall_mem_cons] at inLine
    rw [behind_cons_of_inLine inLine.1, ih inLine.2, List.length_cons]
    exact Nat.succ_add_eq_add_succ _ _

theorem column_behind_of_isBreak (ends : isBreak c = true) :
    (place.behind (text ++ [c])).column = 0 ∧ place.line < (place.behind (text ++ [c])).line := by
  rw [behind_append, behind_cons_of_isBreak ends, behind_nil]
  exact ⟨rfl, Nat.lt_succ_of_le line_le_behind⟩

/-- A character takes up at most four bytes. -/
theorem index_behind_le : (place.behind text).index ≤ place.index + 4 * text.length := by
  induction text generalizing place with
  | nil => exact Nat.le_refl _
  | cons c text ih =>
    have step :
        (place.behind (c :: text)).index ≤ (place.index + c.utf8Size) + 4 * text.length := by
      cases h : isBreak c with
      | true =>
        rw [behind_cons_of_isBreak h]
        exact @ih (place.nextLine c)
      | false =>
        rw [behind_cons_of_inLine h]
        exact @ih (place.next c)
    have bytes := c.utf8Size_le_four
    rw [List.length_cons]
    omega

end Place

namespace Printer

variable {c : Char} {text : List Char}

theorem isPrintable_iff :
    isPrintable c = true ↔
      isAllowed c = true ∧ c ≠ '\t' ∧ c ≠ '\r' ∧ c ≠ nextLine ∧ c ≠ byteOrderMark := by
  simp [isPrintable, and_assoc]

/-- The only blank that can be shown is the space. -/
theorem isBlank_iff_of_isPrintable (shown : isPrintable c = true) :
    isBlank c = true ↔ c = ' ' := by
  simp [isBlank, (isPrintable_iff.1 shown).2.1]

/-- A line end that can be shown stays what it is. -/
theorem breakText_of_isPrintable (shown : isPrintable c = true) (ends : isBreak c = true) :
    breakText c = c := by
  obtain ⟨-, -, noReturn, noNextLine, -⟩ := isPrintable_iff.1 shown
  rcases isBreak_iff.1 ends with rfl | rfl | rfl | rfl | rfl
  · rfl
  · exact absurd rfl noReturn
  · exact absurd rfl noNextLine
  · rfl
  · rfl

theorem isPrintable_of_needsEscapes_eq_false (plain : needsEscapes text = false) :
    ∀ c ∈ text, isPrintable c = true := by
  intro c hm
  rw [needsEscapes, Bool.or_eq_false_iff, List.any_eq_false] at plain
  simpa using plain.1 c hm

theorem hasPair_eq_false_of_needsEscapes_eq_false (plain : needsEscapes text = false) :
    hasPair (· = ' ') isBreak text = false := by
  rw [needsEscapes, Bool.or_eq_false_iff] at plain
  exact plain.2

theorem styleOf_ne_folded (text : List Char) : styleOf text ≠ .folded := by
  rw [styleOf]
  split
  · split <;> decide
  · split
    · decide
    · split <;> decide

/-- A text without a pair has none behind any part of it. -/
theorem hasPair_append_eq_false {first second : Char → Bool} {front back : List Char}
    (free : hasPair first second (front ++ back) = false) : hasPair first second back = false := by
  induction front with
  | nil => exact free
  | cons a front ih =>
    refine ih ?_
    cases h : front ++ back with
    | nil => rfl
    | cons b rest =>
      rw [List.cons_append, h, hasPair, Bool.or_eq_false_iff] at free
      exact free.2

theorem hasPair_append_cons_cons {first second : Char → Bool} {a b : Char}
    {front back : List Char} (free : hasPair first second (front ++ a :: b :: back) = false)
    (opens : first a = true) : second b = false := by
  have here := hasPair_append_eq_false free
  rw [hasPair, Bool.or_eq_false_iff, opens] at here
  simpa using here.1

/-- No space stands next to a line end. -/
def Calm (text : List Char) : Prop :=
  hasPair (· = ' ') isBreak text = false ∧ hasPair isBreak (· = ' ') text = false

namespace Calm

variable {front back : List Char}

theorem of_append (calm : Calm (front ++ back)) : Calm back :=
  ⟨hasPair_append_eq_false calm.1, hasPair_append_eq_false calm.2⟩

theorem isBreak_eq_false (calm : Calm (front ++ ' ' :: c :: back)) : isBreak c = false :=
  hasPair_append_cons_cons calm.1 rfl

theorem ne_space {d : Char} (calm : Calm (front ++ d :: c :: back)) (ends : isBreak d = true) :
    c ≠ ' ' := by
  simpa using hasPair_append_cons_cons calm.2 ends

theorem ne_append_space (calm : Calm (front ++ c :: back)) (ends : isBreak c = true)
    (before : List Char) : front ≠ before ++ [' '] := by
  rintro rfl
  rw [List.append_assoc, List.singleton_append] at calm
  exact absurd ends (Bool.not_eq_true _ ▸ calm.isBreak_eq_false)

end Calm

end Printer

end BehaviorDiff.Yaml
