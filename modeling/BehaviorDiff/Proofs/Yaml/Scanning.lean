import BehaviorDiff.Proofs.Yaml.LiteralBlocks
import BehaviorDiff.Proofs.Yaml.QuotedScalars
import BehaviorDiff.Yaml.TokenStream

set_option autoImplicit false

/-!
One token after the other. Between two lines of a mapping at the left edge a scanner waits for
nothing but the next line; this module says what it takes from the places where a token begins.
-/

namespace BehaviorDiff.Yaml

theorem isBound_eq_false {mark c : Char} (other : c ≠ mark) (rest : List Char) :
    isBound mark (c :: rest) = false := by
  rcases rest with _ | ⟨d, _ | ⟨e, rest⟩⟩ <;> simp [isBound, other]

namespace Scanner

/-- A number of tokens leads from one scanner to another. -/
def Leads (count : Nat) (scanner next : Scanner) : Prop :=
  ∀ rounds, TokenStream.ofScanner scanner (count + rounds) = TokenStream.ofScanner next rounds

theorem Leads.trans {first second : Nat} {a b c : Scanner} (ab : Leads first a b)
    (bc : Leads second b c) : Leads (first + second) a c := by
  intro rounds
  rw [Nat.add_assoc, ab, bc]

theorem leads_of_advance {scanner next : Scanner} (undone : scanner.isDone = false)
    (advance : scanner.advance = .ok next) : Leads 1 scanner next := by
  intro rounds
  rw [Nat.add_comm, TokenStream.ofScanner, if_neg (by simp [undone]), advance]

/-- A scanner in a block, of which no collection is indented. -/
def inBlock (cursor : Cursor) (tokens : List Token) (indents : List Nat) (key? : Option SimpleKey)
    (keyAllowed : Bool) : Scanner :=
  ⟨cursor, tokens, indents, key?, [], keyAllowed⟩

variable {cursor : Cursor} {tokens : List Token} {indents : List Nat} {key? : Option SimpleKey}
  {keyAllowed : Bool}

@[simp]
theorem cursor_inBlock : (inBlock cursor tokens indents key? keyAllowed).cursor = cursor := rfl

@[simp]
theorem inFlow_inBlock : (inBlock cursor tokens indents key? keyAllowed).inFlow = false := rfl

@[simp]
theorem indents_inBlock : (inBlock cursor tokens indents key? keyAllowed).indents = indents := rfl

@[simp]
theorem place_inBlock :
    (inBlock cursor tokens indents key? keyAllowed).place = cursor.place := by
  rw [place, cursor_inBlock]

theorem isDone_inBlock (unended : .streamEnd ∉ tokens.map (·.kind)) :
    (inBlock cursor tokens indents key? keyAllowed).isDone = false := by
  rw [isDone, decide_eq_false_iff_not, ← List.getLast?_map]
  exact fun last => unended (List.mem_of_getLast? last)

theorem dropStale_inBlock :
    (inBlock cursor tokens indents key? keyAllowed).dropStale =
      ((inBlock cursor tokens indents key? keyAllowed).fresh key?).map
        (inBlock cursor tokens indents · keyAllowed) := by
  have step : (inBlock cursor tokens indents key? keyAllowed).dropStale =
      ((inBlock cursor tokens indents key? keyAllowed).fresh key?).bind fun key? =>
        .ok (inBlock cursor tokens indents key? keyAllowed) := rfl
  rw [step]
  cases (inBlock cursor tokens indents key? keyAllowed).fresh key? <;> rfl

@[simp]
theorem dropStale_none :
    (inBlock cursor tokens indents none keyAllowed).dropStale =
      .ok (inBlock cursor tokens indents none keyAllowed) := rfl

/-- A key stays possible in its line. -/
theorem dropStale_of_near {key : SimpleKey} (line : cursor.place.line ≤ key.place.line)
    (near : cursor.place.index ≤ key.place.index + keyLimit) :
    (inBlock cursor tokens indents (some key) keyAllowed).dropStale =
      .ok (inBlock cursor tokens indents (some key) keyAllowed) := by
  have fresh : (inBlock cursor tokens indents (some key) keyAllowed).isStale key = false := by
    rw [isStale, Bool.or_eq_false_iff]
    exact ⟨decide_eq_false (Nat.not_lt.2 line), decide_eq_false (Nat.not_lt.2 near)⟩
  rw [dropStale_inBlock, Scanner.fresh, fresh]
  rfl

/-- A key is given up behind its line, if it does not have to be one. -/
theorem dropStale_of_line (free : ∀ key ∈ key?, key.required = false)
    (line : ∀ key ∈ key?, key.place.line < cursor.place.line) :
    (inBlock cursor tokens indents key? keyAllowed).dropStale =
      .ok (inBlock cursor tokens indents none keyAllowed) := by
  cases key? with
  | none => rfl
  | some key =>
    have stale : (inBlock cursor tokens indents (some key) keyAllowed).isStale key = true := by
      rw [isStale, Bool.or_eq_true]
      exact .inl (decide_eq_true (line key rfl))
    rw [dropStale_inBlock, Scanner.fresh, stale, if_neg (by decide), free key rfl]
    rfl

/-- A key that does not have to be one stays possible or is given up. -/
theorem exists_dropStale (free : ∀ key ∈ key?, key.required = false) :
    ∃ left?, (∀ key ∈ left?, key ∈ key?) ∧
      (inBlock cursor tokens indents key? keyAllowed).dropStale =
        .ok (inBlock cursor tokens indents left? keyAllowed) := by
  cases key? with
  | none => exact ⟨none, fun key hm => hm, rfl⟩
  | some key =>
    rw [dropStale_inBlock, Scanner.fresh]
    cases (inBlock cursor tokens indents (some key) keyAllowed).isStale key with
    | false => exact ⟨some key, fun key hm => hm, rfl⟩
    | true =>
      rw [if_neg (by decide), free key rfl]
      exact ⟨none, fun key hm => absurd hm (Option.not_mem_none key), rfl⟩

/-- No collection at the left edge ends in front of a token. -/
theorem closeBlocks_leftEdge (edge : ∀ indent ∈ indents, indent = 0) (column : Nat) :
    (inBlock cursor tokens indents key? keyAllowed).closeBlocks (some column) =
      inBlock cursor tokens indents key? keyAllowed := by
  have none : ∀ indent ∈ indents, ¬ column < indent := by
    intro indent hm
    rw [edge indent hm]
    exact Nat.not_lt_zero column
  cases indents with
  | nil => simp [closeBlocks, closeAll, inFlow, inBlock]
  | cons indent indents =>
    have here := none indent List.mem_cons_self
    simp [closeBlocks, closeAll, inFlow, inBlock, here]

/-- A scanner that waits for the next line. -/
structure ComesTo (scanner : Scanner) (kinds : List TokenKind) (indents : List Nat)
    (rest : List Char) : Prop where
  unended : .streamEnd ∉ kinds
  undone : scanner.isDone = false
  waits : ∃ place tokens, place.column = 0 ∧ tokens.map Token.kind = kinds ∧
    scanner.toToken.dropStale = .ok (inBlock ⟨place, rest⟩ tokens indents none true)

theorem advance_of_settle {scanner : Scanner} (edge : ∀ indent ∈ indents, indent = 0)
    (settles : scanner.toToken.dropStale = .ok (inBlock cursor tokens indents key? keyAllowed)) :
    scanner.advance =
      (inBlock cursor tokens indents key? keyAllowed).readToken.bind dropStale := by
  rw [advance, settles]
  exact congrArg (fun scanner => (readToken scanner).bind dropStale) (closeBlocks_leftEdge edge _)

section Skipping

variable {inFlow : Bool} {place : Place} {rest : List Char}

theorem skipToToken_here (begins : BeginsLine rest) :
    skipToToken inFlow keyAllowed false place rest = (⟨place, rest⟩, keyAllowed) := by
  cases rest with
  | nil => rfl
  | cons c rest =>
    obtain ⟨noBlank, noBreak, noSign, noMark⟩ := begins c rfl
    have noHalf := isHalfBreak_eq_false rest (ne_return_of_isBreak_eq_false noBreak)
    simp only [isBlank, Bool.or_eq_false_iff, decide_eq_false_iff_not] at noBlank
    simp [skipToToken, noHalf, noBreak, noSign, noMark, noBlank]

theorem skipToToken_space (begins : BeginsLine rest) :
    skipToToken inFlow keyAllowed false place (' ' :: rest) =
      (⟨place.next ' ', rest⟩, keyAllowed) := by
  rw [skipToToken, if_neg (by simp [isHalfBreak]), if_neg (by decide), if_pos (by simp)]
  exact skipToToken_here begins

theorem skipToToken_lineEnd (begins : BeginsLine rest) :
    skipToToken false keyAllowed false place ('\n' :: rest) =
      (⟨place.nextLine '\n', rest⟩, true) := by
  rw [skipToToken, if_neg (by simp [isHalfBreak]), if_pos (by decide), Bool.not_false,
    Bool.or_true]
  exact skipToToken_here begins

theorem toToken_inBlock (begins : BeginsLine rest) :
    (inBlock ⟨place, rest⟩ tokens indents key? keyAllowed).toToken =
      inBlock ⟨place, rest⟩ tokens indents key? keyAllowed := by
  rw [toToken]
  simp only [inBlock, Scanner.place, skipToToken_here begins]

theorem toToken_space (begins : BeginsLine rest) :
    (inBlock ⟨place, ' ' :: rest⟩ tokens indents key? keyAllowed).toToken =
      inBlock ⟨place.next ' ', rest⟩ tokens indents key? keyAllowed := by
  rw [toToken]
  simp only [inBlock, Scanner.place, skipToToken_space begins]

theorem toToken_lineEnd (begins : BeginsLine rest) :
    (inBlock ⟨place, '\n' :: rest⟩ tokens indents key? keyAllowed).toToken =
      inBlock ⟨place.nextLine '\n', rest⟩ tokens indents key? true := by
  rw [toToken]
  simp only [inBlock, Scanner.place, Scanner.inFlow, List.isEmpty_nil, Bool.not_true,
    skipToToken_lineEnd begins]

end Skipping

section Reading

open Printer

variable {place : Place} {rest : List Char}

theorem beginsPlain_of_plain {c : Char} {text : List Char} (plain : Plain (c :: text))
    (rest : List Char) : beginsPlain false c (text ++ rest) = true := by
  obtain ⟨noBlank, noBreak, -, -⟩ := plain.beginsLine rest c rfl
  rcases unmarked_cons plain.unmarked with noMark | ⟨mark, goesOn⟩
  · simp [beginsPlain, noBlank, noBreak, noMark]
  · have goesOn := endsWord_append_eq_false rest goesOn
    cases h : text ++ rest with
    | nil => exact absurd goesOn (by simp [h, endsWord])
    | cons d more =>
      rw [h, endsWord, Bool.or_eq_false_iff] at goesOn
      rcases mark with rfl | rfl | rfl <;> simp [beginsPlain, endsWord, goesOn]

theorem readToken_plain {text : List Char} (plain : Plain text)
    (unbound : place.column = 0 → isDocumentBound (text ++ rest) = false) :
    (inBlock ⟨place, text ++ rest⟩ tokens indents key? keyAllowed).readToken =
      (inBlock ⟨place, text ++ rest⟩ tokens indents key? keyAllowed).readPlainScalar := by
  cases text with
  | nil => exact absurd rfl plain.filled
  | cons c text =>
    have begins := beginsPlain_of_plain plain rest
    have unbound (first : place.column = 0) : isBound '-' (c :: (text ++ rest)) = false ∧
        isBound '.' (c :: (text ++ rest)) = false :=
      Bool.or_eq_false_iff.1 (unbound first)
    have dashes : ¬ (place.column = 0 ∧ isBound '-' (c :: (text ++ rest)) = true) :=
      fun ⟨first, bound⟩ => absurd bound (by simp [(unbound first).1])
    have dots : ¬ (place.column = 0 ∧ isBound '.' (c :: (text ++ rest)) = true) :=
      fun ⟨first, bound⟩ => absurd bound (by simp [(unbound first).2])
    rcases unmarked_cons plain.unmarked with noMark | ⟨mark, goesOn⟩
    · simp [isIndicator, isFlowIndicator] at noMark
      simp [readToken, dashes, dots, begins, noMark]
    · have goesOn := endsWord_append_eq_false rest goesOn
      rcases mark with rfl | rfl | rfl <;> simp [readToken, dashes, dots, begins, goesOn]

/-- The key that may begin at a place of a block. -/
def noted (keyAllowed : Bool) (tokens : List Token) (indents : List Nat) (place : Place) :
    Option SimpleKey :=
  if keyAllowed then some ⟨decide (indents.head? = some place.column), tokens.length, place⟩
  else none

theorem noteKey_inBlock :
    (inBlock cursor tokens indents none keyAllowed).noteKey =
      .ok (inBlock cursor tokens indents (noted keyAllowed tokens indents cursor.place)
        keyAllowed) := by
  cases keyAllowed <;> rfl

theorem noted_free (deep : ∀ indent ∈ indents, indent < place.column) :
    ∀ key ∈ noted keyAllowed tokens indents place,
      key.required = false ∧ key.place = place := by
  intro key hm
  cases keyAllowed with
  | false => exact absurd hm (Option.not_mem_none key)
  | true =>
    obtain rfl := Option.some.inj hm
    refine ⟨decide_eq_false fun here => ?_, rfl⟩
    exact Nat.lt_irrefl _ (deep _ (List.mem_of_head? here))

theorem readPlainScalar_inBlock {indent : Nat} {text : List Char} {found : ScalarText}
    (reads : readPlain false indent place .none place text = .ok found)
    (outer : (indents.head?.map (· + 1)).getD 0 = indent) :
    (inBlock ⟨place, text⟩ tokens indents none keyAllowed).readPlainScalar =
      .ok (inBlock found.behind
        (tokens ++ [⟨.scalar .plain (String.ofList found.text), place, found.behind.place⟩])
        indents (noted keyAllowed tokens indents place) found.brokenLine) := by
  rw [readPlainScalar, noteKey_inBlock]
  simp only [bind, Except.bind, inFlow_inBlock, indents_inBlock, place_inBlock, cursor_inBlock,
    outer, reads]
  rfl

theorem readKeyPart_inBlock {read : Cursor → Except Fault (TokenKind × Cursor)} {kind : TokenKind}
    {behind : Cursor} (reads : read cursor = .ok (kind, behind)) :
    (inBlock cursor tokens indents none keyAllowed).readKeyPart read =
      .ok (inBlock behind (tokens ++ [⟨kind, cursor.place, behind.place⟩]) indents
        (noted keyAllowed tokens indents cursor.place) false) := by
  rw [readKeyPart, noteKey_inBlock]
  simp only [bind, Except.bind, place_inBlock, cursor_inBlock, reads]
  rfl

theorem readToken_quote {single : Bool} {text : List Char} :
    (inBlock ⟨place, (if single then '\'' else '"') :: text⟩ tokens indents key?
        keyAllowed).readToken =
      readQuotedScalar (inBlock ⟨place, (if single then '\'' else '"') :: text⟩ tokens indents key?
        keyAllowed) single := by
  cases single <;> simp [readToken, isBound_eq_false]

theorem readQuotedScalar_inBlock {single : Bool} {c : Char} {text : List Char} {found : ScalarText}
    (reads : readQuoted single place (.text .none) (place.next c) text = .ok found) :
    (inBlock ⟨place, c :: text⟩ tokens indents none keyAllowed).readQuotedScalar single =
      .ok (inBlock found.behind
        (tokens ++ [⟨.scalar (if single then .singleQuoted else .doubleQuoted)
          (String.ofList found.text), place, found.behind.place⟩])
        indents (noted keyAllowed tokens indents place) false) := by
  have start : (Cursor.mk place (c :: text)).skip.place = place.next c := rfl
  rw [readQuotedScalar]
  refine readKeyPart_inBlock ?_
  simp only [start, List.drop_one, List.tail_cons, reads, bind, Except.bind]
  rfl

theorem readToken_literal {text : List Char} :
    (inBlock ⟨place, '|' :: text⟩ tokens indents key? keyAllowed).readToken =
      readBlockScalar (inBlock ⟨place, '|' :: text⟩ tokens indents key? keyAllowed) false := by
  simp [readToken, isBound_eq_false]

theorem readBlockScalar_inBlock {parent? : Option Nat} {text : List Char} {found : ScalarText}
    (reads : Yaml.readBlockScalar false parent? ⟨place, text⟩ = .ok found)
    (parent : indents.head? = parent?) :
    (inBlock ⟨place, text⟩ tokens indents none keyAllowed).readBlockScalar false =
      .ok (inBlock found.behind
        (tokens ++ [⟨.scalar .literal (String.ofList found.text), place, found.behind.place⟩])
        indents none true) := by
  have noKey : (inBlock ⟨place, text⟩ tokens indents none keyAllowed).dropKey =
      .ok (inBlock ⟨place, text⟩ tokens indents none keyAllowed) := rfl
  rw [Scanner.readBlockScalar, noKey]
  simp only [bind, Except.bind, indents_inBlock, cursor_inBlock, parent, reads]
  rfl

theorem readToken_colon (ends : endsWord rest = true) :
    (inBlock ⟨place, ':' :: rest⟩ tokens indents key? keyAllowed).readToken =
      readValue (inBlock ⟨place, ':' :: rest⟩ tokens indents key? keyAllowed) := by
  simp [readToken, isBound_eq_false, ends]

theorem readToken_hyphen :
    (inBlock ⟨place, '-' :: ' ' :: rest⟩ tokens indents key? keyAllowed).readToken =
      readBlockEntry (inBlock ⟨place, '-' :: ' ' :: rest⟩ tokens indents key? keyAllowed) := by
  have noBound : isBound '-' ('-' :: ' ' :: rest) = false := by cases rest <;> simp [isBound]
  simp [readToken, isBound_eq_false, noBound, endsWord, Yaml.isBlank]

theorem readToken_bracket :
    (inBlock ⟨place, '[' :: rest⟩ tokens indents key? keyAllowed).readToken =
      readFlowStart (inBlock ⟨place, '[' :: rest⟩ tokens indents key? keyAllowed)
        .flowSequenceStart := by
  simp [readToken, isBound_eq_false]

end Reading

end Scanner

end BehaviorDiff.Yaml
