import BehaviorDiff.Proofs.Yaml.PlainScalars
import Mathlib.Data.List.DropRight

set_option autoImplicit false

/-!
Literal blocks. A text is cut into its lines and the line ends at its end. The lines are read with
the margin that the writer gives them; for the line ends at the end there is a sign in the header.
-/

namespace BehaviorDiff.Yaml

namespace BlockState

/-- The line ends that have been read but are not yet part of the text. -/
def pending (state : BlockState) : List Char := state.lineBreak?.toList ++ state.breaks

/-- Within a line no line ends are left. -/
def Settled (state : BlockState) : Prop := state.inLine = true → state.pending = []

/-- The state behind a line end that stays what it is. -/
def endLine (state : BlockState) (c : Char) : BlockState :=
  if state.inLine then { state with inLine := false, lineBreak? := some c }
  else { state with breaks := state.breaks ++ [c] }

variable {state : BlockState} {c : Char}

@[simp]
theorem inLine_endLine : (state.endLine c).inLine = false := by
  cases h : state.inLine <;> simp [endLine, h]

@[simp]
theorem indent?_endLine : (state.endLine c).indent? = state.indent? := by
  cases h : state.inLine <;> simp [endLine, h]

theorem settled_endLine : (state.endLine c).Settled := fun within =>
  absurd within (by simp)

theorem pending_endLine (settled : state.Settled) :
    (state.endLine c).pending = state.pending ++ [c] := by
  cases h : state.inLine with
  | true =>
    obtain ⟨noBreak, noBreaks⟩ := List.append_eq_nil_iff.1 (settled h)
    simp [endLine, h, pending, noBreaks]
    simpa using noBreak
  | false => simp [endLine, h, pending]

theorem pending_foldl_endLine {ends : List Char} (settled : state.Settled) :
    (ends.foldl endLine state).pending = state.pending ++ ends := by
  induction ends generalizing state with
  | nil => rw [List.foldl_nil, List.append_nil]
  | cons c ends ih =>
    rw [List.foldl_cons, ih settled_endLine, pending_endLine settled, List.append_assoc,
      List.singleton_append]

theorem tail_keep : state.tail .keep = state.pending := rfl

end BlockState

open Printer

variable {header : BlockHeader} {least : Nat} {start place : Place} {state : BlockState}

theorem readBlock_within {c : Char} {tail : List Char} (whole : isHalfBreak c tail = false)
    (within : state.inLine = true) :
    readBlock header least start state place (c :: tail) =
      if isBreak c then
        readBlock header least start
          { state with inLine := false, lineBreak? := some (breakText c) } (place.nextLine c) tail
      else (readBlock header least start state (place.next c) tail).map (·.after [c]) := by
  conv => lhs; rw [readBlock]
  rw [if_neg (by simp [whole]), if_pos within]

theorem readBlock_between {c : Char} {tail : List Char} (whole : isHalfBreak c tail = false)
    (between : state.inLine = false) :
    readBlock header least start state place (c :: tail) =
      let inMargin := (state.indent?.map fun indent => decide (place.column < indent)).getD true
      if inMargin && c = ' ' then readBlock header least start state (place.next c) tail
      else if inMargin && c = '\t' then
        (Cursor.mk place []).fault .tabForIndentation .blockScalar start
      else
        let widest := max state.widest place.column
        if isBreak c then
          readBlock header least start
            { state with widest, breaks := state.breaks ++ [breakText c] } (place.nextLine c) tail
        else
          let indent := state.indent?.getD (max widest (max least 1))
          if place.column = indent then
            let next : BlockState := ⟨some indent, widest, none, [], isBlank c, true⟩
            (readBlock header least start next (place.next c) tail).map
              (·.after (state.join header.folded c ++ [c]))
          else .ok ⟨state.tail header.chomping, ⟨place, c :: tail⟩, false⟩ := by
  conv => lhs; rw [readBlock]
  rw [if_neg (by simp [whole]), if_neg (by simp [between])]

/-- A line end is read where a line ends or begins. -/
theorem readBlock_lineEnd {c : Char} (shown : isPrintable c = true) (ends : isBreak c = true)
    (here : state.inLine = true ∨ place.column = 0) (tail : List Char) :
    readBlock header least start state place (c :: tail) =
      readBlock header least start (state.endLine c) (place.nextLine c) tail := by
  have same := breakText_of_isPrintable shown ends
  have noHalf := isHalfBreak_eq_false tail (isPrintable_iff.1 shown).2.2.1
  cases within : state.inLine with
  | true =>
    rw [readBlock_within noHalf within, if_pos ends, same, BlockState.endLine, if_pos within]
  | false =>
    have first : place.column = 0 := here.resolve_left (by simp [within])
    have noSpace : c ≠ ' ' := by rintro rfl; exact absurd ends (by decide)
    have noTab : c ≠ '\t' := (isPrintable_iff.1 shown).2.1
    rw [readBlock_between noHalf within]
    simp only [noSpace, noTab, ends, decide_false, Bool.and_false, Bool.false_eq_true, if_false,
      if_true, same, first, Nat.max_zero, BlockState.endLine, within]

/-- Line ends in front of a line at the left edge end a block. -/
theorem readBlock_lineEnds {ends rest : List Char} (shown : ∀ c ∈ ends, isPrintable c = true)
    (breaks : ∀ c ∈ ends, isBreak c = true)
    (here : state.inLine = true ∧ ends ≠ [] ∨ state.inLine = false ∧ place.column = 0)
    (deep : ∀ indent ∈ state.indent?, 0 < indent) (next : BeginsLine rest) :
    readBlock header least start state place (ends ++ rest) =
      .ok ⟨(ends.foldl BlockState.endLine state).tail header.chomping,
        ⟨place.behind ends, rest⟩, false⟩ := by
  induction ends generalizing state place with
  | nil =>
    obtain ⟨within, first⟩ := here.resolve_left (fun h => h.2 rfl)
    cases rest with
    | nil => rfl
    | cons c rest =>
      obtain ⟨noBlank, noBreak, -, -⟩ := next c rfl
      have noHalf := isHalfBreak_eq_false rest (ne_return_of_isBreak_eq_false noBreak)
      simp only [isBlank, Bool.or_eq_false_iff, decide_eq_false_iff_not] at noBlank
      have outside : place.column ≠
          state.indent?.getD (max (max state.widest place.column) (max least 1)) := by
        cases h : state.indent? with
        | none => rw [Option.getD_none]; omega
        | some indent => have := deep indent h; rw [Option.getD_some]; omega
      rw [List.nil_append, readBlock_between noHalf within]
      simp only [noBlank.1, noBlank.2, noBreak, outside, decide_false, Bool.and_false,
        Bool.false_eq_true, if_false]
      rfl
  | cons c ends ih =>
    rw [List.forall_mem_cons] at shown breaks
    have here' : state.inLine = true ∨ place.column = 0 := here.imp And.left And.right
    rw [List.cons_append, readBlock_lineEnd shown.1 breaks.1 here',
      ih shown.2 breaks.2 (.inr ⟨BlockState.inLine_endLine, rfl⟩) (by simpa using deep),
      List.foldl_cons, Place.behind_cons_of_isBreak breaks.1]

theorem readBlock_inLine {c : Char} (noBreak : isBreak c = false) (within : state.inLine = true)
    (tail : List Char) :
    readBlock header least start state place (c :: tail) =
      (readBlock header least start state (place.next c) tail).map (·.after [c]) := by
  have noHalf := isHalfBreak_eq_false tail (ne_return_of_isBreak_eq_false noBreak)
  rw [readBlock_within noHalf within, if_neg (by simp [noBreak])]

/-- Whether the lines of a block have a margin of two: the header says so, or the next line does. -/
def BlockState.MarginKnown (state : BlockState) (text : List Char) : Prop :=
  state.indent? = some 2 ∨ state.indent? = none ∧ state.inLine = false ∧ state.widest = 0 ∧
    ∀ c ∈ text.head?, isBreak c = false ∧ c ≠ ' '

namespace BlockState.MarginKnown

variable {text : List Char}

theorem eq_two (known : state.MarginKnown text) : ∀ indent ∈ state.indent?, indent = 2 := by
  rcases known with known | ⟨known, -⟩ <;> simp [known]

theorem given_of_inLine (known : state.MarginKnown text) (within : state.inLine = true) :
    state.indent? = some 2 := by
  rcases known with known | ⟨-, between, -⟩
  · exact known
  · exact absurd within (by simp [between])

theorem given_of_isBreak {c : Char} (known : state.MarginKnown (c :: text))
    (ends : isBreak c = true) : state.indent? = some 2 := by
  rcases known with known | ⟨-, -, -, known⟩
  · exact known
  · exact absurd ends (by simp [(known c rfl).1])

end BlockState.MarginKnown

/-- A space of the margin does not count. -/
theorem readBlock_space (between : state.inLine = false)
    (inMargin : ∀ indent ∈ state.indent?, place.column < indent) (tail : List Char) :
    readBlock header least start state place (' ' :: tail) =
      readBlock header least start state (place.next ' ') tail := by
  have inMargin :
      ((state.indent?.map fun indent => decide (place.column < indent)).getD true) = true := by
    cases h : state.indent? with
    | none => rfl
    | some indent => simpa using inMargin indent h
  rw [readBlock_between (by simp [isHalfBreak]) between]
  simp [inMargin]

variable (start) in
/-- The first character of a line is read behind the margin, with all line ends in front of it. -/
theorem readBlock_margin {c : Char} {text : List Char} (literal : header.folded = false)
    (shown : isPrintable c = true) (noBreak : isBreak c = false) (between : state.inLine = false)
    (first : place.column = 0) (known : state.MarginKnown (c :: text)) :
    ∃ widest leading, ∀ tail,
      readBlock header 1 start state place (margin ++ c :: tail) =
        (readBlock header 1 start ⟨some 2, widest, none, [], leading, true⟩
          (place.behind (margin ++ [c])) tail).map (·.after (state.pending ++ [c])) := by
  refine ⟨max state.widest 2, isBlank c, fun tail => ?_⟩
  have second : (place.next ' ').column = 1 := by rw [Place.next, first]
  have third : ((place.next ' ').next ' ').column = 2 := by rw [Place.next, second]
  have given := known.eq_two
  have noHalf := isHalfBreak_eq_false tail (ne_return_of_isBreak_eq_false noBreak)
  have noTab : c ≠ '\t' := (isPrintable_iff.1 shown).2.1
  have behindMargin :
      ((state.indent?.map fun indent => decide (2 < indent)).getD true && decide (c = ' ')) =
        false := by
    rcases known with known | ⟨-, -, -, known⟩
    · simp [known]
    · simp [(known c rfl).2]
  have indent : state.indent?.getD (max (max state.widest 2) (max 1 1)) = 2 := by
    rcases known with known | ⟨known, -, widest, -⟩
    · rw [known, Option.getD_some]
    · rw [known, Option.getD_none, widest]
      rfl
  have there : place.behind (margin ++ [c]) = ((place.next ' ').next ' ').next c := by
    rw [Place.behind_append, Place.behind_cons_of_inLine noBreak]
    rfl
  rw [there, margin, List.cons_append, List.cons_append, List.nil_append,
    readBlock_space between (fun indent hm => by rw [given indent hm, first]; decide),
    readBlock_space between (fun indent hm => by rw [given indent hm, second]; decide)]
  rw [readBlock_between noHalf between, third]
  simp only [behindMargin, noTab, noBreak, indent, literal, decide_false, Bool.and_false,
    Bool.false_eq_true, if_false, if_true]
  simp [BlockState.join, BlockState.pending]

variable (start) in
/-- A character that ends no line is read together with the line ends in front of it. -/
theorem readBlock_character {c : Char} {text : List Char} (literal : header.folded = false)
    (shown : isPrintable c = true) (noBreak : isBreak c = false) (settled : state.Settled)
    (known : state.MarginKnown (c :: text)) (here : state.inLine = true ∨ place.column = 0) :
    ∃ widest leading, ∀ tail,
      readBlock header 1 start state place (withMargin (!state.inLine) [c] ++ tail) =
        (readBlock header 1 start ⟨some 2, widest, none, [], leading, true⟩
          (place.behind (withMargin (!state.inLine) [c])) tail).map
            (·.after (state.pending ++ [c])) := by
  cases within : state.inLine with
  | true =>
    have given := known.given_of_inLine within
    have nothing := settled within
    have same : state = ⟨some 2, state.widest, none, [], state.leadingBlank, true⟩ := by
      obtain ⟨noBreak?, noBreaks⟩ := List.append_eq_nil_iff.1 nothing
      cases state
      simp_all
    refine ⟨state.widest, state.leadingBlank, fun tail => ?_⟩
    have written : withMargin (!true) [c] = [c] := by simp [withMargin, noBreak]
    rw [written, List.singleton_append, readBlock_inLine noBreak within, nothing, ← same,
      Place.behind_cons_of_inLine noBreak]
    rfl
  | false =>
    obtain ⟨widest, leading, reads⟩ := readBlock_margin start literal shown noBreak within
      (here.resolve_left (by simp [within])) known
    have written : withMargin (!false) [c] = margin ++ [c] := by simp [withMargin, noBreak]
    refine ⟨widest, leading, fun tail => ?_⟩
    rw [written, List.append_assoc]
    exact reads tail

variable (start) in
/-- Lines with a margin are read as what they are, together with the line ends in front of them. -/
theorem readBlock_withMargin {text : List Char} (literal : header.folded = false)
    (shown : ∀ c ∈ text, isPrintable c = true) (closed : ∃ c ∈ text.getLast?, isBreak c = false)
    (settled : state.Settled) (known : state.MarginKnown text)
    (here : state.inLine = true ∨ place.column = 0) :
    ∃ widest leading, ∀ tail,
      readBlock header 1 start state place (withMargin (!state.inLine) text ++ tail) =
        (readBlock header 1 start ⟨some 2, widest, none, [], leading, true⟩
          (place.behind (withMargin (!state.inLine) text)) tail).map
            (·.after (state.pending ++ text)) := by
  -- what is pending grows with each line end, and the next character takes it along
  induction text generalizing state place with
  | nil =>
    obtain ⟨c, hm, -⟩ := closed
    cases hm
  | cons c text ih =>
    rw [List.forall_mem_cons] at shown
    cases breaks : isBreak c with
    | true =>
      have more : text ≠ [] := by
        rintro rfl
        obtain ⟨d, hm, inLine⟩ := closed
        obtain rfl : c = d := Option.some.inj hm
        exact absurd breaks (by simp [inLine])
      have given := known.given_of_isBreak breaks
      rw [List.getLast?_cons_of_ne_nil more] at closed
      obtain ⟨widest, leading, reads⟩ := @ih (place.nextLine c) (state.endLine c) shown.2 closed
        BlockState.settled_endLine (.inl (by simpa using given)) (.inr rfl)
      refine ⟨widest, leading, fun tail => ?_⟩
      rw [BlockState.inLine_endLine, BlockState.pending_endLine settled, List.append_assoc] at reads
      rw [withMargin, if_pos breaks, List.cons_append, readBlock_lineEnd shown.1 breaks here,
        Place.behind_cons_of_isBreak breaks]
      exact reads tail
    | false =>
      have lines : withMargin (!state.inLine) (c :: text) =
          withMargin (!state.inLine) [c] ++ withMargin false text := by
        simp [withMargin, breaks]
      obtain ⟨widest, leading, reads⟩ :=
        readBlock_character start literal shown.1 breaks settled known here
      by_cases more : text = []
      · subst more
        exact ⟨widest, leading, reads⟩
      · rw [List.getLast?_cons_of_ne_nil more] at closed
        obtain ⟨widest', leading', reads'⟩ :=
          @ih (place.behind (withMargin (!state.inLine) [c]))
            ⟨some 2, widest, none, [], leading, true⟩ shown.2 closed (fun _ => rfl) (.inl rfl)
            (.inl rfl)
        refine ⟨widest', leading', fun tail => ?_⟩
        rw [lines, List.append_assoc, reads, Place.behind_append]
        refine (congrArg _ (reads' tail)).trans ?_
        rw [ScalarText.map_after_after]
        simp [BlockState.pending]

theorem withMargin_of_isBreak {ends : List Char} (breaks : ∀ c ∈ ends, isBreak c = true)
    (atLineStart : Bool) : withMargin atLineStart ends = ends := by
  induction ends generalizing atLineStart with
  | nil => rfl
  | cons c ends ih =>
    rw [List.forall_mem_cons] at breaks
    rw [withMargin, if_pos breaks.1, ih breaks.2]

theorem withMargin_append {ends : List Char} (breaks : ∀ c ∈ ends, isBreak c = true)
    (body : List Char) (atLineStart : Bool) :
    withMargin atLineStart (body ++ ends) = withMargin atLineStart body ++ ends := by
  induction body generalizing atLineStart with
  | nil => exact withMargin_of_isBreak breaks atLineStart
  | cons c body ih =>
    rw [List.cons_append, withMargin, withMargin, ih, ih]
    split
    · rfl
    · rw [List.append_assoc]
      rfl

/-- What the sign for the width of the margin says. -/
def incrementOf (sign : List Char) : Option Nat := if sign = [] then none else some 2

/-- What the sign for the line ends at the end says. -/
def chompingOf (sign : List Char) : Chomping := (sign.head?.bind Chomping.ofChar?).getD .clip

theorem marginSign_cases (text : List Char) :
    marginSign text = ['2'] ∨
      marginSign text = [] ∧ ∀ c ∈ text.head?, isBreak c = false ∧ c ≠ ' ' := by
  cases text with
  | nil => exact .inr ⟨rfl, fun c hm => by cases hm⟩
  | cons c text =>
    by_cases loose : c = ' ' ∨ isBreak c = true
    · exact .inl (by simp [marginSign, loose])
    · rw [not_or, Bool.not_eq_true] at loose
      refine .inr ⟨by simp [marginSign, loose], fun d hm => ?_⟩
      obtain rfl : c = d := Option.some.inj hm
      exact ⟨loose.2, loose.1⟩

/-- How the line ends at the end of a text are written: one behind a line needs no sign. -/
theorem chompingSign_cases {text : List Char} (filled : text ≠ []) :
    (chompingSign text = ['-'] ∧ ∃ c ∈ text.getLast?, isBreak c = false) ∨
      (chompingSign text = [] ∧ ∃ body c, text = body ++ [c] ∧ isBreak c = true ∧
        ∃ d ∈ body.getLast?, isBreak d = false) ∨
      (chompingSign text = ['+'] ∧ ∃ c ∈ text.getLast?, isBreak c = true) := by
  obtain ⟨body, c, rfl⟩ := text.eq_nil_or_concat'.resolve_left filled
  have last : c ∈ (body ++ [c]).getLast? := List.getLast?_concat
  cases breaks : isBreak c with
  | false =>
    refine .inl ⟨?_, c, last, breaks⟩
    cases h : body.reverse <;> simp [chompingSign, breaks, h]
  | true =>
    rcases body.eq_nil_or_concat' with rfl | ⟨front, d, rfl⟩
    · exact .inr (.inr ⟨by simp [chompingSign, breaks], c, last, breaks⟩)
    · cases breaks' : isBreak d with
      | false =>
        refine .inr (.inl ⟨by simp [chompingSign, breaks, breaks'], _, c, rfl, breaks, d, ?_,
          breaks'⟩)
        exact List.getLast?_concat
      | true => exact .inr (.inr ⟨by simp [chompingSign, breaks, breaks'], c, last, breaks⟩)

theorem readBlockHeader_signs {tail : List Char} {text : List Char} (filled : text ≠ []) :
    readBlockHeader false
        ⟨place, marginSign text ++ (chompingSign text ++ '\n' :: tail)⟩ start =
      .ok (⟨false, chompingOf (chompingSign text), incrementOf (marginSign text)⟩,
        ⟨place.behind (marginSign text ++ chompingSign text), '\n' :: tail⟩) := by
  rcases marginSign_cases text with margin | ⟨margin, -⟩ <;>
    rcases chompingSign_cases filled with ⟨chomping, -⟩ | ⟨chomping, -⟩ | ⟨chomping, -⟩ <;>
      rw [margin, chomping] <;> rfl

/-- The line end that a literal block adds to a text that does not end with one. -/
def addedEnd (text : List Char) : List Char :=
  if (text.getLast?.map isBreak).getD false then [] else ['\n']

/-- What stands in a literal block for a text: its lines, and the line ends behind the last one. Of
these the text gets back what it has. -/
structure Lines (text body ends : List Char) : Prop where
  shown : ∀ c ∈ body ++ ends, isPrintable c = true
  closed : ∀ c ∈ body.getLast?, isBreak c = false
  breaks : ∀ c ∈ ends, isBreak c = true
  filled : ends ≠ []
  opened : (body ++ ends).head? = text.head?
  written : withMargin true text ++ addedEnd text = withMargin true body ++ ends
  kept : ∀ state : BlockState, state.Settled → state.pending = [] →
    (body ≠ [] → state.inLine = true) →
      body ++ (ends.foldl BlockState.endLine state).tail (chompingOf (chompingSign text)) = text

/-- A text that ends within a line gets one line end more, which is not read. -/
theorem lines_of_inLine {text : List Char} (shown : ∀ c ∈ text, isPrintable c = true)
    (sign : chompingSign text = ['-']) (last : ∃ c ∈ text.getLast?, isBreak c = false) :
    Lines text text ['\n'] := by
  obtain ⟨c, hm, noBreak⟩ := last
  have filled : text ≠ [] := by rintro rfl; cases hm
  have unended : (text.getLast?.map isBreak).getD false = false := by
    rw [hm, Option.map_some, Option.getD_some, noBreak]
  constructor
  case shown => exact List.forall_mem_append.2 ⟨shown, by simp; decide⟩
  case closed => exact fun d hd => Option.mem_unique hm hd ▸ noBreak
  case breaks => simp; decide
  case filled => exact List.cons_ne_nil _ _
  case opened => exact List.head?_append_of_ne_nil _ filled
  case written => rw [addedEnd, unended, if_neg Bool.false_ne_true]
  case kept =>
    intro state _ _ _
    simp [sign, chompingOf, Chomping.ofChar?, BlockState.tail]

/-- One line end behind a line stays. -/
theorem lines_of_lineEnd {body : List Char} {c : Char}
    (shown : ∀ d ∈ body ++ [c], isPrintable d = true) (sign : chompingSign (body ++ [c]) = [])
    (breaks : isBreak c = true) (last : ∃ d ∈ body.getLast?, isBreak d = false) :
    Lines (body ++ [c]) body [c] := by
  obtain ⟨d, hm, noBreak⟩ := last
  have filled : body ≠ [] := by rintro rfl; cases hm
  have ends : ∀ d ∈ [c], isBreak d = true := List.forall_mem_singleton.2 breaks
  have ended : ((body ++ [c]).getLast?.map isBreak).getD false = true := by
    rw [List.getLast?_concat, Option.map_some, Option.getD_some, breaks]
  constructor
  case shown => exact shown
  case closed => exact fun e he => Option.mem_unique hm he ▸ noBreak
  case breaks => exact ends
  case filled => exact List.cons_ne_nil _ _
  case opened => rfl
  case written => rw [addedEnd, ended, if_pos rfl, List.append_nil, withMargin_append ends]
  case kept =>
    intro state _ _ within
    simp [sign, chompingOf, BlockState.tail, BlockState.endLine, within filled]

/-- Of several line ends, or of those that no line stands in front of, all stay. -/
theorem lines_of_lineEnds {text : List Char} (shown : ∀ c ∈ text, isPrintable c = true)
    (sign : chompingSign text = ['+']) (last : ∃ c ∈ text.getLast?, isBreak c = true) :
    Lines text (text.rdropWhile isBreak) (text.rtakeWhile isBreak) := by
  obtain ⟨c, hm, breaks⟩ := last
  have split : text.rdropWhile isBreak ++ text.rtakeWhile isBreak = text :=
    List.rdropWhile_append_rtakeWhile
  have ends : ∀ d ∈ text.rtakeWhile isBreak, isBreak d = true :=
    fun d hd => List.mem_rtakeWhile_imp hd
  have ended : (text.getLast?.map isBreak).getD false = true := by
    rw [hm, Option.map_some, Option.getD_some, breaks]
  constructor
  case shown => rwa [split]
  case closed =>
    intro d hd
    obtain ⟨more, rfl⟩ := List.mem_getLast?_eq_getLast hd
    simpa using List.rdropWhile_last_not isBreak text more
  case breaks => exact ends
  case filled =>
    intro none
    obtain ⟨more, rfl⟩ := List.mem_getLast?_eq_getLast hm
    exact List.rtakeWhile_eq_nil_iff.1 none more breaks
  case opened => rw [split]
  case written =>
    rw [addedEnd, ended, if_pos rfl, List.append_nil, ← withMargin_append ends, split]
  case kept =>
    intro state settled nothing _
    have all : chompingOf (chompingSign text) = .keep := by rw [sign]; rfl
    rw [all, BlockState.tail_keep, BlockState.pending_foldl_endLine settled, nothing,
      List.nil_append, split]

theorem exists_lines {text : List Char} (shown : ∀ c ∈ text, isPrintable c = true)
    (filled : text ≠ []) : ∃ body ends, Lines text body ends := by
  rcases chompingSign_cases filled with
    ⟨sign, last⟩ | ⟨sign, body, c, rfl, breaks, last⟩ | ⟨sign, last⟩
  · exact ⟨_, _, lines_of_inLine shown sign last⟩
  · exact ⟨_, _, lines_of_lineEnd shown sign breaks last⟩
  · exact ⟨_, _, lines_of_lineEnds shown sign last⟩

variable (header start) in
/-- A block is read up to the line at the left edge behind it. -/
theorem readBlock_lines {text body ends rest : List Char} (lines : Lines text body ends)
    (literal : header.folded = false) (sign : header.chomping = chompingOf (chompingSign text))
    (settled : state.Settled) (between : state.inLine = false) (nothing : state.pending = [])
    (known : state.MarginKnown text) (first : place.column = 0) (next : BeginsLine rest) :
    readBlock header 1 start state place (withMargin true text ++ addedEnd text ++ rest) =
      .ok ⟨text, ⟨place.behind (withMargin true text ++ addedEnd text), rest⟩, false⟩ := by
  obtain ⟨shown, shown'⟩ := List.forall_mem_append.1 lines.shown
  have deep : ∀ indent ∈ state.indent?, 0 < indent := by
    intro indent hm
    rw [known.eq_two indent hm]
    decide
  rw [lines.written, List.append_assoc]
  by_cases empty : body = []
  · have kept := lines.kept state settled nothing (fun h => absurd empty h)
    subst empty
    refine (readBlock_lineEnds shown' lines.breaks (.inr ⟨between, first⟩) deep next).trans ?_
    rw [sign]
    exact congrArg (fun text => Except.ok (ScalarText.mk text _ _)) kept
  · obtain ⟨c, hm⟩ := Option.ne_none_iff_exists'.1 (mt List.getLast?_eq_none_iff.1 empty)
    have known' : state.MarginKnown body := by
      rw [BlockState.MarginKnown, ← lines.opened, List.head?_append_of_ne_nil _ empty] at known
      exact known
    have last : ∃ c ∈ body.getLast?, isBreak c = false := ⟨c, hm, lines.closed c hm⟩
    obtain ⟨widest, leading, reads⟩ :=
      readBlock_withMargin start literal shown last settled known' (.inr first)
    have kept := lines.kept ⟨some 2, widest, none, [], leading, true⟩ (fun _ => rfl) rfl
      (fun _ => rfl)
    rw [between, nothing, List.nil_append] at reads
    refine (reads (ends ++ rest)).trans ?_
    rw [readBlock_lineEnds shown' lines.breaks (.inl ⟨rfl, lines.filled⟩) (by simp) next,
      ScalarText.map_after_ok, sign, kept, Place.behind_append]
    rfl

theorem literal_eq (text : List Char) :
    literal text = '|' :: (marginSign text ++ chompingSign text ++ '\n' ::
      (withMargin true text ++ addedEnd text)) := by
  simp [literal, addedEnd]

theorem skipBreak_skipComment (tail : List Char) :
    (Cursor.mk place ('\n' :: tail)).skipComment = ⟨place, '\n' :: tail⟩ ∧
      (Cursor.mk place ('\n' :: tail)).skipBreak = ⟨place.nextLine '\n', tail⟩ :=
  ⟨rfl, rfl⟩

/-- A text in a literal block is read as what it is. -/
theorem readBlockScalar_literal {text rest : List Char} (shown : ∀ c ∈ text, isPrintable c = true)
    (filled : text ≠ []) (next : BeginsLine rest) :
    readBlockScalar false (some 0) ⟨place, literal text ++ rest⟩ =
      .ok ⟨text, ⟨place.behind (literal text), rest⟩, false⟩ := by
  obtain ⟨body, ends, lines⟩ := exists_lines shown filled
  have known : BlockState.MarginKnown
      ⟨incrementOf (marginSign text), 0, none, [], false, false⟩ text := by
    rcases marginSign_cases text with sign | ⟨sign, opened⟩
    · exact .inl (by rw [sign]; rfl)
    · exact .inr ⟨by rw [sign]; rfl, rfl, rfl, opened⟩
  have behindSign : (Cursor.mk place (literal text ++ rest)).skip = ⟨place.next '|',
      marginSign text ++
        (chompingSign text ++ '\n' :: (withMargin true text ++ addedEnd text ++ rest))⟩ := by
    simp [literal_eq, Cursor.skip]
  have there : place.behind (literal text) =
      (((place.next '|').behind (marginSign text ++ chompingSign text)).nextLine '\n').behind
        (withMargin true text ++ addedEnd text) := by
    rw [literal_eq, Place.behind_cons_of_inLine (by decide), Place.behind_append,
      Place.behind_cons_of_isBreak (by decide)]
  rw [readBlockScalar, behindSign, readBlockHeader_signs filled, there]
  simp only [bind, Except.bind]
  rw [(skipBreak_skipComment _).1, (skipBreak_skipComment _).2,
    if_neg (by simp [endsLine, isBreak])]
  have increment : (incrementOf (marginSign text)).map (· + (some 0).getD 0) =
      incrementOf (marginSign text) := by
    simp
  rw [increment]
  exact readBlock_lines _ place lines rfl rfl (fun _ => rfl) rfl rfl known rfl next

theorem column_behind_literal {text : List Char} (shown : ∀ c ∈ text, isPrintable c = true)
    (filled : text ≠ []) : (place.behind (literal text)).column = 0 := by
  obtain ⟨body, ends, lines⟩ := exists_lines shown filled
  obtain ⟨front, c, rfl⟩ := ends.eq_nil_or_concat'.resolve_left lines.filled
  have ends : isBreak c = true :=
    lines.breaks c (List.mem_append_right _ (List.mem_singleton_self c))
  have split : literal text = '|' :: (marginSign text ++ chompingSign text ++
      '\n' :: (withMargin true body ++ front)) ++ [c] := by
    rw [literal_eq, lines.written]
    simp
  rw [split]
  exact (Place.column_behind_of_isBreak ends).1

theorem shown_of_styleOf_literal {text : List Char} (style : styleOf text = .literal) :
    (∀ c ∈ text, isPrintable c = true) ∧ text ≠ [] := by
  rw [styleOf] at style
  split at style
  · rename_i lines
    split at style
    · cases style
    · rename_i quiet
      rw [Bool.or_eq_true, not_or, Bool.not_eq_true] at quiet
      refine ⟨isPrintable_of_needsEscapes_eq_false quiet.1, ?_⟩
      rintro rfl
      exact absurd lines (by decide)
  · split at style
    · cases style
    · split at style <;> cases style

end BehaviorDiff.Yaml
