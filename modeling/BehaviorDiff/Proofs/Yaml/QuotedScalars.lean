import BehaviorDiff.Proofs.Yaml.PlainScalars
import Mathlib.Algebra.Group.Nat.Defs
import Mathlib.Data.Nat.Basic

set_option autoImplicit false

/-!
Quoted scalars. Between double quotes a text stands in one line, its line ends and all that cannot
be shown as escapes. Between single quotes the separators of lines stay, and the lines behind them
have a margin.
-/

namespace BehaviorDiff.Yaml

/-- The number to which a row of hexadecimal digits goes on. -/
def hexValue? (value : Nat) (digits : List Char) : Option Nat :=
  digits.foldlM (fun value c => (CodeRanges.hexDigit? c).map (value * 16 + ·)) value

theorem hexValue?_cons (value : Nat) (c : Char) (digits : List Char) :
    hexValue? value (c :: digits) =
      (CodeRanges.hexDigit? c).bind fun digit => hexValue? (value * 16 + digit) digits := by
  rw [hexValue?, List.foldlM_cons]
  cases CodeRanges.hexDigit? c <;> rfl

theorem hexValue?_append (value : Nat) (first second : List Char) :
    hexValue? value (first ++ second) = (hexValue? value first).bind (hexValue? · second) :=
  List.foldlM_append

theorem hexDigit?_toUpper_digitChar :
    ∀ n < 16, CodeRanges.hexDigit? n.digitChar.toUpper = some n := by
  decide

theorem hexValue?_toDigits (n : Nat) :
    hexValue? 0 ((Nat.toDigits 16 n).map Char.toUpper) = some n := by
  induction n using Nat.strongRecOn with
  | ind n ih =>
    by_cases small : n < 16
    · rw [Nat.toDigits_of_lt_base small, List.map_singleton, hexValue?_cons,
        hexDigit?_toUpper_digitChar n small]
      simp [hexValue?]
    · have large : 16 ≤ n := Nat.not_lt.1 small
      have last := hexDigit?_toUpper_digitChar (n % 16) (Nat.mod_lt n (by decide))
      rw [Nat.toDigits_of_base_le (by decide) large, List.map_append, List.map_singleton,
        hexValue?_append, ih (n / 16) (by omega), Option.bind_some, hexValue?_cons, last]
      exact congrArg some (Nat.div_add_mod' n 16)

theorem hexValue?_replicate_zero (count : Nat) (digits : List Char) :
    hexValue? 0 (List.replicate count '0' ++ digits) = hexValue? 0 digits := by
  induction count with
  | zero => rfl
  | succ count ih =>
    rw [List.replicate_succ, List.cons_append, hexValue?_cons]
    exact ih

theorem hexValue?_hexDigits (count n : Nat) : hexValue? 0 (Printer.hexDigits count n) = some n := by
  rw [Printer.hexDigits, hexValue?_replicate_zero, hexValue?_toDigits]

theorem length_hexDigits {count n : Nat} (some : 0 < count) (fits : n < 16 ^ count) :
    (Printer.hexDigits count n).length = count := by
  have digits : (Nat.toDigits 16 n).length ≤ count :=
    (Nat.length_toDigits_le_iff (by decide) some).2 fits
  rw [Printer.hexDigits, List.length_append, List.length_replicate, List.length_map]
  exact Nat.sub_add_cancel digits

/-- A line end is neither a digit nor the letter of an escape. -/
theorem isBreak_eq_false_of_isSome {c : Char}
    (known : (CodeRanges.hexDigit? c).isSome = true ∨ (Escape.ofChar? c).isSome = true) :
    isBreak c = false := by
  by_contra ends
  rcases isBreak_iff.1 (Bool.not_eq_false _ ▸ ends) with rfl | rfl | rfl | rfl | rfl <;>
    exact absurd known (by decide)

/-- What stands for a character behind a backslash: a letter, or a letter and digits. -/
inductive EscapedAs (c : Char) : List Char → Prop
  | named {letter : Char} :
      Escape.ofChar? letter = some (.character c) → EscapedAs c ['\\', letter]
  | coded {letter : Char} {digits : List Char} :
      Escape.ofChar? letter = some (.code digits.length) → digits ≠ [] →
        hexValue? 0 digits = some c.toNat → EscapedAs c ('\\' :: letter :: digits)

theorem isBreak_eq_false_of_hexValue? {value n : Nat} {digits : List Char}
    (reads : hexValue? value digits = some n) : ∀ c ∈ digits, isBreak c = false := by
  induction digits generalizing value with
  | nil => exact List.forall_mem_nil _
  | cons c digits ih =>
    rw [hexValue?_cons, Option.bind_eq_some_iff] at reads
    obtain ⟨digit, known, reads⟩ := reads
    exact List.forall_mem_cons.2 ⟨isBreak_eq_false_of_isSome (.inl (by rw [known]; rfl)), ih reads⟩

theorem EscapedAs.inLine {c : Char} {written : List Char} (escape : EscapedAs c written) :
    ∀ d ∈ written, isBreak d = false := by
  cases escape with
  | named known =>
    have inLine := isBreak_eq_false_of_isSome (.inr (by rw [known]; rfl))
    simp [inLine, show isBreak '\\' = false by decide]
  | coded known filled reads =>
    have inLine := isBreak_eq_false_of_isSome (.inr (by rw [known]; rfl))
    have digits := isBreak_eq_false_of_hexValue? reads
    simpa [inLine, show isBreak '\\' = false by decide] using digits

theorem escapedAs_hexDigits {c letter : Char} {count : Nat}
    (known : Escape.ofChar? letter = some (.code count)) (some : 0 < count)
    (fits : c.toNat < 16 ^ count) :
    EscapedAs c ('\\' :: letter :: Printer.hexDigits count c.toNat) := by
  have length := length_hexDigits some fits
  have filled := List.ne_nil_of_length_pos (Nat.lt_of_lt_of_eq some length.symm)
  exact .coded (by rw [known, length]) filled (hexValue?_hexDigits count c.toNat)

theorem escapedAs_escaped (c : Char) : EscapedAs c (Printer.escaped c) := by
  unfold Printer.escaped
  split
  case h_12 =>
    split
    · rename_i h
      exact .named (h ▸ rfl)
    split
    · rename_i h
      exact .named (h ▸ rfl)
    split
    · rename_i h
      exact .named (h ▸ rfl)
    split
    · exact escapedAs_hexDigits rfl (by decide) (by omega)
    split
    · exact escapedAs_hexDigits rfl (by decide) (by omega)
    · have valid : c.toNat < 16 ^ 8 := c.val.toNat_lt
      exact escapedAs_hexDigits rfl (by decide) valid
  all_goals exact .named rfl

variable {single : Bool} {start place : Place} {gap : Gap}

section Modes

-- One equation for each mode that a written text comes to; escaped line ends are never written.

variable (c : Char) (tail : List Char)

theorem readQuoted_doubled :
    readQuoted single start .doubled place (c :: tail) =
      (readQuoted single start (.text .none) (place.next c) tail).map (·.after [c]) :=
  rfl

theorem readQuoted_letter :
    readQuoted single start .escape place (c :: tail) =
      match Escape.ofChar? c with
      | some (.character d) =>
        (readQuoted single start (.text .none) (place.next c) tail).map (·.after [d])
      | some (.code digits) =>
        readQuoted single start (.code digits 0 (place.next c)) (place.next c) tail
      | none => (Cursor.mk place []).fault .unknownEscape .quotedEscape start :=
  rfl

theorem readQuoted_digit (missing value : Nat) (began : Place) :
    readQuoted single start (.code missing value began) place (c :: tail) =
      match CodeRanges.hexDigit? c with
      | none => (Cursor.mk began []).fault .noHexDigits .quotedEscape start
      | some digit =>
        if missing ≤ 1 then
          if (value * 16 + digit).isValidChar then
            (readQuoted single start (.text .none) (place.next c) tail).map
              (·.after [Char.ofNat (value * 16 + digit)])
          else (Cursor.mk began []).fault .noScalarValue .quotedEscape start
        else
          readQuoted single start (.code (missing - 1) (value * 16 + digit) began) (place.next c)
            tail :=
  rfl

theorem readQuoted_text :
    readQuoted single start (.text gap) place (c :: tail) =
      if isHalfBreak c tail then readQuoted single start (.text gap) place.halfway tail
      else if isBreak c then
        readQuoted single start (.text (gap.addBreak c)) (place.nextLine c) tail
      else if isBlank c then readQuoted single start (.text (gap.addBlank c)) (place.next c) tail
      else if place.column = 0 && isDocumentBound (c :: tail) then
        (Cursor.mk place []).fault .boundInScalar .quotedScalar start
      else if single && c = '\'' && tail.head? = some '\'' then
        (readQuoted single start .doubled (place.next c) tail).map (·.after gap.text)
      else if c = (if single then '\'' else '"') then
        .ok ⟨gap.text, ⟨place.next c, tail⟩, false⟩
      else if !single && c = '\\' then
        match tail.head? with
        | none => (Cursor.mk place []).fault .unknownEscape .quotedEscape start
        | some d =>
          if isBreak d then
            (readQuoted single start .lineEnd (place.next c) tail).map (·.after gap.text)
          else if (Escape.ofChar? d).isSome then
            (readQuoted single start .escape (place.next c) tail).map (·.after gap.text)
          else (Cursor.mk place []).fault .unknownEscape .quotedEscape start
      else
        (readQuoted single start (.text .none) (place.next c) tail).map
          (·.after (gap.text ++ [c])) :=
  rfl

end Modes

theorem readQuoted_code {value : Nat} {began : Place} {c : Char} {digits : List Char}
    (reads : hexValue? value digits = some c.toNat) (filled : digits ≠ []) (tail : List Char) :
    readQuoted single start (.code digits.length value began) place (digits ++ tail) =
      (readQuoted single start (.text .none) (place.behind digits) tail).map (·.after [c]) := by
  induction digits generalizing value place with
  | nil => exact absurd rfl filled
  | cons d digits ih =>
    rw [hexValue?_cons, Option.bind_eq_some_iff] at reads
    obtain ⟨digit, known, reads⟩ := reads
    have inLine := isBreak_eq_false_of_isSome (c := d) (.inl (by rw [known]; rfl))
    rw [List.cons_append, readQuoted_digit, known, Place.behind_cons_of_inLine inLine]
    cases digits with
    | nil =>
      have number : value * 16 + digit = c.toNat := by simpa [hexValue?] using reads
      have valid : c.toNat.isValidChar := c.valid
      simp [number, valid]
    | cons e digits => simpa using ih reads (List.cons_ne_nil _ _)

/-- A backslash begins an escape wherever it stands. -/
theorem readQuoted_backslash {letter : Char} (known : (Escape.ofChar? letter).isSome = true)
    (tail : List Char) :
    readQuoted false start (.text gap) place ('\\' :: letter :: tail) =
      (readQuoted false start .escape (place.next '\\') (letter :: tail)).map
        (·.after gap.text) := by
  have noBound : isDocumentBound ('\\' :: letter :: tail) = false := by
    rcases tail with _ | ⟨c, _ | ⟨d, tail⟩⟩ <;> simp [isDocumentBound, isBound]
  have inLine := isBreak_eq_false_of_isSome (.inr known)
  rw [readQuoted_text, if_neg (by simp [isHalfBreak]), if_neg (by decide), if_neg (by decide),
    if_neg (by simp [noBound]), if_neg (by simp), if_neg (by decide), if_pos (by decide)]
  simp [inLine, known]

theorem readQuoted_escape {c : Char} {written : List Char} (escape : EscapedAs c written)
    (tail : List Char) :
    readQuoted false start (.text gap) place (written ++ tail) =
      (readQuoted false start (.text .none) (place.behind written) tail).map
        (·.after (gap.text ++ [c])) := by
  cases escape with
  | @named letter known =>
    have inLine := isBreak_eq_false_of_isSome (c := letter) (.inr (by rw [known]; rfl))
    rw [List.cons_append, List.cons_append, readQuoted_backslash (by rw [known]; rfl),
      readQuoted_letter, known, ← ScalarText.map_after_after,
      Place.behind_cons_of_inLine (by decide), Place.behind_cons_of_inLine inLine]
    rfl
  | @coded letter digits known filled reads =>
    have inLine := isBreak_eq_false_of_isSome (c := letter) (.inr (by rw [known]; rfl))
    rw [List.cons_append, List.cons_append, readQuoted_backslash (by rw [known]; rfl),
      readQuoted_letter, known, ← ScalarText.map_after_after,
      Place.behind_cons_of_inLine (by decide), Place.behind_cons_of_inLine inLine]
    exact congrArg _ (readQuoted_code reads filled tail)

theorem readQuoted_space (tail : List Char) :
    readQuoted single start (.text gap) place (' ' :: tail) =
      readQuoted single start (.text (gap.addBlank ' ')) (place.next ' ') tail := by
  rw [readQuoted_text, if_neg (by simp [isHalfBreak]), if_neg (by decide), if_pos (by decide)]

theorem readQuoted_lineEnd {c : Char} (noReturn : c ≠ '\r') (ends : isBreak c = true)
    (tail : List Char) :
    readQuoted single start (.text gap) place (c :: tail) =
      readQuoted single start (.text (gap.addBreak c)) (place.nextLine c) tail := by
  have noHalf := isHalfBreak_eq_false tail noReturn
  rw [readQuoted_text, if_neg (by simp [noHalf]), if_pos ends]

/-- A character that is no mark stands for itself. -/
theorem readQuoted_character {c : Char} (begun : 0 < place.column) (inLine : isBreak c = false)
    (noBlank : isBlank c = false) (noQuote : c ≠ if single then '\'' else '"')
    (noEscape : single = true ∨ c ≠ '\\') (tail : List Char) :
    readQuoted single start (.text gap) place (c :: tail) =
      (readQuoted single start (.text .none) (place.behind [c]) tail).map
        (·.after (gap.text ++ [c])) := by
  have noHalf := isHalfBreak_eq_false tail (ne_return_of_isBreak_eq_false inLine)
  have notFirst := Nat.ne_of_gt begun
  rw [Place.behind_cons_of_inLine inLine, Place.behind_nil]
  rw [readQuoted_text, if_neg (by simp [noHalf]), if_neg (by simp [inLine]),
    if_neg (by simp [noBlank]), if_neg (by simp [notFirst]),
    if_neg (by cases single <;> simp_all), if_neg noQuote, if_neg (by cases single <;> simp_all)]

/-- A quote without another one behind it ends the scalar. -/
theorem readQuoted_quote {rest : List Char} (begun : 0 < place.column)
    (ends : single = true → rest.head? ≠ some '\'') :
    readQuoted single start (.text gap) place ((if single then '\'' else '"') :: rest) =
      .ok ⟨gap.text, ⟨place.next (if single then '\'' else '"'), rest⟩, false⟩ := by
  have notFirst := Nat.ne_of_gt begun
  rw [readQuoted_text]
  cases single <;>
    simp_all [isHalfBreak, isBreak, isBlank, nextLine, lineSeparator, paragraphSeparator]

open Printer

/-- A text in double quotes is read as what it is. -/
theorem readQuoted_doubleQuotedText {text : List Char} (begun : 0 < place.column)
    (noBreak : gap.isLines = false) (rest : List Char) :
    readQuoted false start (.text gap) place (doubleQuotedText text ++ '"' :: rest) =
      .ok ⟨gap.text ++ text, ⟨place.behind (doubleQuotedText text ++ ['"']), rest⟩, false⟩ := by
  induction text generalizing gap place with
  | nil =>
    rw [List.append_nil]
    exact readQuoted_quote begun (fun h => absurd h (by decide))
  | cons c text ih =>
    rw [doubleQuotedText, List.flatMap_cons, ← doubleQuotedText, List.append_assoc,
      List.append_assoc]
    split
    · have escape := escapedAs_escaped c
      have column : 0 < (place.behind (escaped c)).column := by
        rw [Place.column_behind escape.inLine]
        exact Nat.add_pos_left begun _
      rw [readQuoted_escape escape, ih column rfl, ScalarText.map_after_ok,
        Place.behind_append]
      simp [Gap.text]
    · rename_i shown
      simp only [Bool.or_eq_true, Bool.not_eq_true', decide_eq_true_eq, not_or, Bool.not_eq_false,
        Bool.not_eq_true] at shown
      obtain ⟨⟨⟨shown, inLine⟩, noQuote⟩, noEscape⟩ := shown
      rw [List.singleton_append, List.singleton_append, Place.behind_cons_of_inLine inLine]
      cases blank : isBlank c with
      | true =>
        obtain rfl := (isBlank_iff_of_isPrintable shown).1 blank
        rw [readQuoted_space, ih (Nat.succ_pos _) (by simpa using noBreak),
          Gap.text_addBlank noBreak, List.append_assoc, List.singleton_append]
      | false =>
        have column : 0 < (place.behind [c]).column := by
          rw [Place.behind_cons_of_inLine inLine]
          exact Nat.succ_pos _
        rw [readQuoted_character begun inLine blank (by simpa using noQuote) (.inr noEscape),
          ih column rfl, ScalarText.map_after_ok, Place.behind_cons_of_inLine inLine]
        simp [Gap.text]

/-- A gap of which the text of the scalar keeps every character. -/
inductive Gap.Kept : Gap → Prop
  | none : Kept .none
  | blanks (text : List Char) : Kept (.blanks (text ++ [' ']))
  | first {c : Char} : c ≠ '\n' → isBreak c = true → Kept (.lines (some c) [])
  | more {first c : Char} (more : List Char) :
      first ≠ '\n' → isBreak c = true → Kept (.lines (some first) (more ++ [c]))

namespace Gap

theorem text_lines {first : Char} (stays : first ≠ '\n') (more : List Char) :
    text (.lines (some first) more) = first :: more := by
  rw [text] <;> simp [stays]

theorem Kept.addBlank (kept : gap.Kept) : (gap.addBlank ' ').Kept := by
  cases kept with
  | none => exact .blanks []
  | blanks text => exact .blanks (text ++ [' '])
  | first stays ends => exact .first stays ends
  | more more stays ends => exact .more more stays ends

/-- What a gap of lines leaves ends with a line end. -/
theorem Kept.exists_isBreak (kept : gap.Kept) (lines : gap.isLines = true) :
    ∃ front c, gap.text = front ++ [c] ∧ isBreak c = true := by
  cases kept with
  | none => exact absurd lines (by decide)
  | blanks text => exact absurd lines (by simp [isLines])
  | @first c stays ends => exact ⟨[], c, text_lines stays [], ends⟩
  | @more first c more stays ends => exact ⟨first :: more, c, text_lines stays _, ends⟩

/-- In a calm text a space stands only within a line. -/
theorem Kept.isLines_eq_false {text : List Char} (kept : gap.Kept)
    (calm : Calm (gap.text ++ ' ' :: text)) : gap.isLines = false := by
  by_contra lines
  obtain ⟨front, c, text', ends⟩ := kept.exists_isBreak (Bool.not_eq_false _ ▸ lines)
  rw [text', List.append_assoc, List.singleton_append] at calm
  exact calm.ne_space ends rfl

/-- A separator joins the gap in front of it, if that has no blanks. -/
theorem Kept.addBreak {c : Char} (kept : gap.Kept) (stays : c ≠ '\n') (ends : isBreak c = true)
    (same : breakText c = c) (calm : ∀ front, gap.text ≠ front ++ [' ']) :
    (gap.addBreak c).Kept ∧ (gap.addBreak c).text = gap.text ++ [c] := by
  cases kept with
  | none =>
    simp only [Gap.addBreak, same]
    exact ⟨.first stays ends, text_lines stays []⟩
  | blanks text => exact absurd rfl (calm text)
  | first others _ =>
    simp only [Gap.addBreak, same]
    exact ⟨.more [] others ends, by rw [text_lines others, text_lines others]; rfl⟩
  | more more others _ =>
    simp only [Gap.addBreak, same]
    exact ⟨.more _ others ends, by rw [text_lines others, text_lines others]; rfl⟩

@[simp]
theorem isLines_addBreak {c : Char} : (gap.addBreak c).isLines = true := by
  cases gap <;> rfl

end Gap

variable (single start) in
/-- The margin of a line does not count. -/
theorem readQuoted_margin (begun : gap.isLines = true ∨ 0 < place.column) :
    ∃ place' : Place, 0 < place'.column ∧
      place.behind (if gap.isLines then margin else []) = place' ∧
      ∀ tail, readQuoted single start (.text gap) place
          ((if gap.isLines then margin else []) ++ tail) =
        readQuoted single start (.text gap) place' tail := by
  cases gap with
  | lines first more =>
    refine ⟨(place.next ' ').next ' ', Nat.succ_pos _, rfl, fun tail => ?_⟩
    exact (readQuoted_space _).trans (readQuoted_space tail)
  | none => exact ⟨place, begun.resolve_left (by decide), rfl, fun _ => rfl⟩
  | blanks text => exact ⟨place, begun.resolve_left Bool.false_ne_true, rfl, fun _ => rfl⟩

variable (start gap) in
/-- A character between single quotes stands for itself, and two quotes stand for one. -/
theorem readQuoted_singleQuoted {c : Char} (begun : 0 < place.column) (inLine : isBreak c = false)
    (noBlank : isBlank c = false) :
    ∃ place' : Place, 0 < place'.column ∧
      place.behind (if c = '\'' then ['\'', '\''] else [c]) = place' ∧
      ∀ tail, readQuoted true start (.text gap) place
          ((if c = '\'' then ['\'', '\''] else [c]) ++ tail) =
        (readQuoted true start (.text .none) place' tail).map (·.after (gap.text ++ [c])) := by
  by_cases quote : c = '\''
  · subst quote
    refine ⟨(place.next '\'').next '\'', Nat.succ_pos _, rfl, fun tail => ?_⟩
    have notFirst := Nat.ne_of_gt begun
    rw [if_pos rfl, List.cons_append, List.singleton_append, ← ScalarText.map_after_after]
    rw [readQuoted_text, if_neg (by simp [isHalfBreak]), if_neg (by decide), if_neg (by decide),
      if_neg (by simp [notFirst]), if_pos (by simp), readQuoted_doubled]
  · refine ⟨place.next c, Nat.succ_pos _, ?_, fun tail => ?_⟩
    · rw [if_neg quote, Place.behind_cons_of_inLine inLine, Place.behind_nil]
    · rw [if_neg quote, List.singleton_append]
      rw [readQuoted_character begun inLine noBlank (by simpa using quote) (.inl rfl),
        Place.behind_cons_of_inLine inLine, Place.behind_nil]

/-- A text in single quotes is read as what it is, if its line ends are separators next to which no
space stands. -/
theorem readQuoted_singleQuotedText {text rest : List Char}
    (shown : ∀ c ∈ text, isPrintable c = true) (noNewline : '\n' ∉ text)
    (calm : Calm (gap.text ++ text)) (kept : gap.Kept)
    (begun : gap.isLines = true ∨ 0 < place.column) (ends : rest.head? ≠ some '\'') :
    readQuoted true start (.text gap) place
        (singleQuotedText gap.isLines text ++ '\'' :: rest) =
      .ok ⟨gap.text ++ text,
        ⟨place.behind (singleQuotedText gap.isLines text ++ ['\'']), rest⟩, false⟩ := by
  -- a line whose margin is still to be read is one whose gap is made of lines
  induction text generalizing gap place with
  | nil =>
    obtain ⟨place', begun', there, reads⟩ := readQuoted_margin true start begun
    rw [singleQuotedText, reads, Place.behind_append, there, List.append_nil]
    exact readQuoted_quote begun' (fun _ => ends)
  | cons c text ih =>
    rw [List.forall_mem_cons] at shown
    rw [List.mem_cons, not_or] at noNewline
    cases breaks : isBreak c with
    | true =>
      obtain ⟨kept', text'⟩ := kept.addBreak (Ne.symm noNewline.1) breaks
        (breakText_of_isPrintable shown.1 breaks) (calm.ne_append_space breaks)
      have reads := @ih (place.nextLine c) (gap.addBreak c) shown.2 noNewline.2
        (by rwa [text', List.append_assoc]) kept' (.inl Gap.isLines_addBreak)
      rw [Gap.isLines_addBreak, text', List.append_assoc, List.singleton_append] at reads
      rw [singleQuotedText, if_pos breaks, List.cons_append, List.cons_append,
        Place.behind_cons_of_isBreak breaks, ← reads]
      exact readQuoted_lineEnd (isPrintable_iff.1 shown.1).2.2.1 breaks _
    | false =>
      obtain ⟨place', begun', there, skips⟩ := readQuoted_margin true start begun
      rw [singleQuotedText, if_neg (by simp [breaks]), List.append_assoc, List.append_assoc, skips]
      simp only [List.append_assoc, Place.behind_append, there]
      cases blank : isBlank c with
      | true =>
        obtain rfl := (isBlank_iff_of_isPrintable shown.1).1 blank
        have inLine := kept.isLines_eq_false calm
        have text' := @Gap.text_addBlank gap ' ' inLine
        have reads := @ih (place'.next ' ') (gap.addBlank ' ') shown.2 noNewline.2
          (by rwa [text', List.append_assoc]) kept.addBlank (.inr (Nat.succ_pos _))
        rw [Gap.isLines_addBlank, inLine, text', List.append_assoc, List.singleton_append] at reads
        rw [if_neg (by decide), List.singleton_append, readQuoted_space, reads,
          Place.behind_append]
        rfl
      | false =>
        obtain ⟨behind, begun'', there', reads'⟩ :=
          readQuoted_singleQuoted start gap begun' breaks blank
        have reads := @ih behind .none shown.2 noNewline.2
          (Calm.of_append (by rwa [List.append_cons] at calm)) .none (.inr begun'')
        rw [reads', there']
        refine (congrArg _ reads).trans ?_
        rw [ScalarText.map_after_ok, Gap.text, List.nil_append, List.append_assoc,
          List.singleton_append, Place.behind_append]
        rfl

theorem calm_of_styleOf_singleQuoted {text : List Char} (style : styleOf text = .singleQuoted) :
    (∀ c ∈ text, isPrintable c = true) ∧ '\n' ∉ text ∧ Calm text := by
  rw [styleOf] at style
  split at style
  · split at style <;> cases style
  · rename_i inLine
    split at style
    · cases style
    · rename_i quiet
      rw [Bool.or_eq_true, not_or, Bool.not_eq_true, Bool.not_eq_true] at quiet
      exact ⟨isPrintable_of_needsEscapes_eq_false quiet.1, by simpa using inLine,
        hasPair_eq_false_of_needsEscapes_eq_false quiet.1, quiet.2⟩

end BehaviorDiff.Yaml
