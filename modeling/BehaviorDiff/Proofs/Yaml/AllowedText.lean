import BehaviorDiff.Proofs.Yaml.LiteralBlocks
import BehaviorDiff.Proofs.Yaml.QuotedScalars
import BehaviorDiff.Yaml.TokenStream

set_option autoImplicit false

/-!
Whatever a text has, the characters that it is written by may all stand in a text.
-/

namespace BehaviorDiff.Yaml

/-- Every character of a text may stand in it. -/
def Allowed (text : List Char) : Prop := ∀ c ∈ text, isAllowed c = true

instance (text : List Char) : Decidable (Allowed text) :=
  List.decidableBAll (fun c => isAllowed c = true) text

theorem Allowed.append {first second : List Char} (allowed : Allowed first)
    (allowed' : Allowed second) : Allowed (first ++ second) :=
  List.forall_mem_append.2 ⟨allowed, allowed'⟩

theorem Allowed.cons {c : Char} {text : List Char} (allowed : isAllowed c = true)
    (allowed' : Allowed text) : Allowed (c :: text) :=
  List.forall_mem_cons.2 ⟨allowed, allowed'⟩

theorem allowed_of_isPrintable {text : List Char}
    (shown : ∀ c ∈ text, Printer.isPrintable c = true) : Allowed text :=
  fun c hm => (Printer.isPrintable_iff.1 (shown c hm)).1

/-- What can be written in ASCII without control characters may stand in a text. -/
theorem isAllowed_of_ascii {c : Char} (low : 0x20 ≤ c.toNat) (high : c.toNat ≤ 0x7E) :
    isAllowed c = true := by
  simp [isAllowed, low, high]

theorem isAllowed_of_hexDigit {c : Char} (digit : (CodeRanges.hexDigit? c).isSome = true) :
    isAllowed c = true := by
  have range : ('0' ≤ c ∧ c ≤ '9') ∨ ('A' ≤ c ∧ c ≤ 'F') ∨ ('a' ≤ c ∧ c ≤ 'f') := by
    unfold CodeRanges.hexDigit? at digit
    split at digit
    · exact .inl ‹_›
    split at digit
    · exact .inr (.inl ‹_›)
    split at digit
    · exact .inr (.inr ‹_›)
    · cases digit
  have low : '0' ≤ c := by
    rcases range with ⟨low, -⟩ | ⟨low, -⟩ | ⟨low, -⟩
    · exact low
    · exact Char.le_trans (by decide) low
    · exact Char.le_trans (by decide) low
  have high : c ≤ 'f' := by
    rcases range with ⟨-, high⟩ | ⟨-, high⟩ | ⟨-, high⟩
    · exact Char.le_trans high (by decide)
    · exact Char.le_trans high (by decide)
    · exact high
  have low' : 48 ≤ c.toNat := low
  have high' : c.toNat ≤ 102 := high
  exact isAllowed_of_ascii (by omega) (by omega)

theorem isAllowed_of_escape {c : Char} (known : (Escape.ofChar? c).isSome = true) :
    isAllowed c = true := by
  unfold Escape.ofChar? at known
  split at known <;> first | decide | cases known

theorem allowed_of_hexValue? {value n : Nat} {digits : List Char}
    (reads : hexValue? value digits = some n) : Allowed digits := by
  induction digits generalizing value with
  | nil => exact List.forall_mem_nil _
  | cons c digits ih =>
    rw [hexValue?_cons, Option.bind_eq_some_iff] at reads
    obtain ⟨digit, known, reads⟩ := reads
    exact (ih reads).cons (isAllowed_of_hexDigit (by rw [known]; rfl))

theorem EscapedAs.allowed {c : Char} {written : List Char} (escape : EscapedAs c written) :
    Allowed written := by
  cases escape with
  | named known =>
    have letter := isAllowed_of_escape (by rw [known]; rfl)
    exact .cons (by decide) (.cons letter (by decide))
  | coded known filled reads =>
    have letter := isAllowed_of_escape (by rw [known]; rfl)
    exact .cons (by decide) (.cons letter (allowed_of_hexValue? reads))

theorem forbiddenOffset?_eq_none {text : List Char} (allowed : Allowed text) (offset : Nat) :
    TokenStream.forbiddenOffset? offset text = none := by
  induction text generalizing offset with
  | nil => rfl
  | cons c text ih =>
    obtain ⟨here, allowed⟩ := List.forall_mem_cons.1 allowed
    rw [TokenStream.forbiddenOffset?, if_pos here, ih allowed]

namespace Printer

theorem allowed_margin (atLineStart : Bool) :
    Allowed (if atLineStart then margin else []) := by
  cases atLineStart <;> decide

theorem allowed_singleQuotedText {text : List Char} (allowed : Allowed text) (atLineStart : Bool) :
    Allowed (singleQuotedText atLineStart text) := by
  induction text generalizing atLineStart with
  | nil => exact allowed_margin atLineStart
  | cons c text ih =>
    obtain ⟨here, allowed⟩ := List.forall_mem_cons.1 allowed
    rw [singleQuotedText]
    split
    · exact .cons here (ih allowed true)
    · refine ((allowed_margin _).append ?_).append (ih allowed false)
      split
      · decide
      · exact .cons here (by decide)

theorem allowed_doubleQuotedText (text : List Char) : Allowed (doubleQuotedText text) := by
  induction text with
  | nil => exact List.forall_mem_nil _
  | cons c text ih =>
    rw [doubleQuotedText, List.flatMap_cons]
    refine .append ?_ ih
    split
    · exact (escapedAs_escaped c).allowed
    · rename_i shown
      simp only [Bool.or_eq_true, Bool.not_eq_true', not_or, Bool.not_eq_false] at shown
      exact .cons (isPrintable_iff.1 shown.1.1.1).1 (by decide)

theorem allowed_withMargin {text : List Char} (allowed : Allowed text) (atLineStart : Bool) :
    Allowed (withMargin atLineStart text) := by
  induction text generalizing atLineStart with
  | nil => exact List.forall_mem_nil _
  | cons c text ih =>
    obtain ⟨here, allowed⟩ := List.forall_mem_cons.1 allowed
    rw [withMargin]
    split
    · exact .cons here (ih allowed true)
    · exact (allowed_margin _).append (.cons here (ih allowed false))

theorem allowed_literal {text : List Char} (allowed : Allowed text) (filled : text ≠ []) :
    Allowed (literal text) := by
  have margin : Allowed (marginSign text) := by
    rcases marginSign_cases text with sign | ⟨sign, -⟩ <;> rw [sign] <;> decide
  have chomping : Allowed (chompingSign text) := by
    rcases chompingSign_cases filled with ⟨sign, -⟩ | ⟨sign, -⟩ | ⟨sign, -⟩ <;> rw [sign] <;> decide
  have added : Allowed (addedEnd text) := by
    unfold addedEnd
    split <;> decide
  rw [literal_eq]
  refine .cons (by decide) ((margin.append chomping).append (.cons (by decide) ?_))
  exact (allowed_withMargin allowed true).append added

/-- A text is written by characters that may stand in a text. -/
theorem allowed_scalar (text : String) : Allowed (scalar text) := by
  rw [scalar]
  cases style : styleOf text.toList with
  | plain => exact (allowed_of_isPrintable (plain_of_styleOf style).shown).append (by decide)
  | singleQuoted =>
    have allowed := allowed_of_isPrintable (calm_of_styleOf_singleQuoted style).1
    exact .append (.cons (by decide) (allowed_singleQuotedText allowed false)) (by decide)
  | doubleQuoted => exact .append (.cons (by decide) (allowed_doubleQuotedText _)) (by decide)
  | literal =>
    obtain ⟨shown, filled⟩ := shown_of_styleOf_literal style
    exact allowed_literal (allowed_of_isPrintable shown) filled
  | folded => exact absurd style (styleOf_ne_folded _)

end Printer

end BehaviorDiff.Yaml
