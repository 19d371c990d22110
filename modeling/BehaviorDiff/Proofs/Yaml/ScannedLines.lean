import BehaviorDiff.Proofs.Yaml.Scanning

set_option autoImplicit false

/-!
The lines of a mapping at the left edge, token by token. A line is a field with a value or an entry
of the field above; the tokens of both do not depend on what comes before or behind.
-/

namespace BehaviorDiff.Yaml.Scanner

open Printer

variable {place : Place} {tokens : List Token} {kinds : List TokenKind} {indents : List Nat}
  {key? : Option SimpleKey} {keyAllowed : Bool} {rest : List Char}

/-- A token behind which a line begins. -/
theorem exists_next_of_line (kinds_eq : tokens.map Token.kind = kinds)
    (unended : .streamEnd ∉ kinds) (first : place.column = 0)
    (free : ∀ key ∈ key?, key.required = false ∧ key.place.line < place.line)
    (begins : BeginsLine rest) :
    ∃ next, (inBlock ⟨place, rest⟩ tokens indents key? true).dropStale = .ok next ∧
      next.ComesTo kinds indents rest := by
  subst kinds_eq
  refine ⟨_, dropStale_of_line (fun key hm => (free key hm).1) (fun key hm => (free key hm).2),
    unended, isDone_inBlock unended, place, tokens, first, rfl, ?_⟩
  rw [toToken_inBlock begins, dropStale_none]

theorem comesTo_of_lineEnd (kinds_eq : tokens.map Token.kind = kinds) (unended : .streamEnd ∉ kinds)
    (free : ∀ key ∈ key?, key.required = false ∧ key.place.line ≤ place.line)
    (begins : BeginsLine rest) :
    (inBlock ⟨place, '\n' :: rest⟩ tokens indents key? keyAllowed).ComesTo kinds indents rest := by
  subst kinds_eq
  refine ⟨unended, isDone_inBlock unended, place.nextLine '\n', tokens, rfl, rfl, ?_⟩
  rw [toToken_lineEnd begins]
  exact dropStale_of_line (fun key hm => (free key hm).1)
    (fun key hm => Nat.lt_succ_of_le (free key hm).2)

/-- A token behind which a line ends. -/
theorem exists_next_of_lineEnd (kinds_eq : tokens.map Token.kind = kinds)
    (unended : .streamEnd ∉ kinds)
    (free : ∀ key ∈ key?, key.required = false ∧ key.place.line ≤ place.line)
    (begins : BeginsLine rest) :
    ∃ next, (inBlock ⟨place, '\n' :: rest⟩ tokens indents key? keyAllowed).dropStale = .ok next ∧
      next.ComesTo kinds indents rest := by
  obtain ⟨left?, fewer, drops⟩ := exists_dropStale (fun key hm => (free key hm).1)
  exact ⟨_, drops, comesTo_of_lineEnd kinds_eq unended (fun key hm => free key (fewer key hm))
    begins⟩

/-- A scanner within a line takes some characters as tokens and comes to the next line. -/
def EndsLine (keyAllowed : Bool) (chars : List Char) (kinds : List TokenKind) : Prop :=
  ∀ place tokens rest, 0 < place.column → .streamEnd ∉ tokens.map Token.kind → BeginsLine rest →
    ∃ next count, count ≤ chars.length ∧
      Leads count (inBlock ⟨place, chars ++ rest⟩ tokens [0] none keyAllowed) next ∧
        next.ComesTo (tokens.map Token.kind ++ kinds) [0] rest

/-- A scanner takes a line as tokens. -/
def Scans (indents : List Nat) (chars : List Char) (kinds : List TokenKind) : Prop :=
  ∀ scanner before rest, BeginsLine rest → ComesTo scanner before indents (chars ++ rest) →
    ∃ next count, count ≤ chars.length ∧ Leads count scanner next ∧
      next.ComesTo (before ++ kinds) [0] rest

theorem Scans.append {chars chars' : List Char} {kinds kinds' : List TokenKind}
    (scans : Scans indents chars kinds) (scans' : Scans [0] chars' kinds')
    (begins : ∀ rest, BeginsLine rest → BeginsLine (chars' ++ rest)) :
    Scans indents (chars ++ chars') (kinds ++ kinds') := by
  intro scanner before rest begins' comes
  rw [List.append_assoc] at comes
  obtain ⟨next, count, few, leads, comes⟩ := scans _ _ _ (begins rest begins') comes
  obtain ⟨next', count', few', leads', comes⟩ := scans' _ _ _ begins' comes
  rw [List.append_assoc] at comes
  refine ⟨next', count + count', ?_, leads.trans leads', comes⟩
  rw [List.length_append]
  exact Nat.add_le_add few few'

/-- A scalar behind a space ends its line if the scanner comes to the next line from it. -/
theorem endsLine_of_readToken {chars : List Char} {style : ScalarStyle} {text : String}
    (begins : ∀ rest, BeginsLine (chars ++ rest))
    (reads : ∀ place tokens rest, 0 < place.column →
      .streamEnd ∉ tokens.map Token.kind ++ [.scalar style text] → BeginsLine rest → ∃ next,
        (inBlock ⟨place, chars ++ rest⟩ tokens [0] none keyAllowed).readToken.bind dropStale =
          .ok next ∧ next.ComesTo (tokens.map Token.kind ++ [.scalar style text]) [0] rest) :
    EndsLine keyAllowed (' ' :: chars) [.scalar style text] := by
  intro place tokens rest deep unended begins'
  have unended' : .streamEnd ∉ tokens.map Token.kind ++ [.scalar style text] := by
    simpa using unended
  obtain ⟨next, reads, comes⟩ :=
    reads (place.next ' ') tokens rest (Nat.succ_pos _) unended' begins'
  refine ⟨next, 1, Nat.succ_le_of_lt (Nat.succ_pos _), ?_, comes⟩
  refine leads_of_advance (isDone_inBlock unended) ?_
  rw [← reads]
  refine advance_of_settle (by simp) ?_
  rw [List.cons_append, toToken_space (begins rest), dropStale_none]

theorem endsLine_plain {text : List Char} (plain : Plain text) :
    EndsLine keyAllowed (' ' :: (text ++ ['\n'])) [.scalar .plain (String.ofList text)] := by
  refine endsLine_of_readToken ?_ ?_
  · intro rest
    rw [List.append_assoc]
    exact plain.beginsLine _
  · intro place tokens rest deep unended begins
    obtain ⟨column, line⟩ : (place.behind (text ++ ['\n'])).column = 0 ∧
        place.line < (place.behind (text ++ ['\n'])).line :=
      Place.column_behind_of_isBreak (by decide)
    rw [List.append_assoc, List.singleton_append,
      readToken_plain plain (fun first => absurd first (Nat.ne_of_gt deep)),
      readPlainScalar_inBlock (plain.readPlain_value begins) rfl]
    refine exists_next_of_line (by simp) unended column (fun key hm => ?_) begins
    obtain ⟨free, here⟩ := noted_free (by simpa using deep) key hm
    exact ⟨free, here ▸ line⟩

theorem endsLine_quoted {single : Bool} {written : List Char} {text : String}
    (reads : ∀ start place : Place, ∀ rest, 0 < place.column →
      readQuoted single start (.text .none) place
          (written ++ (if single then '\'' else '"') :: '\n' :: rest) =
        .ok ⟨text.toList, ⟨place.behind (written ++ [if single then '\'' else '"']), '\n' :: rest⟩,
          false⟩) :
    EndsLine keyAllowed
      (' ' :: (if single then '\'' else '"') :: (written ++ [if single then '\'' else '"', '\n']))
      [.scalar (if single then .singleQuoted else .doubleQuoted) text] := by
  refine endsLine_of_readToken ?_ ?_
  · intro rest
    exact beginsLine_cons (by cases single <;> decide) (by cases single <;> decide)
      (by cases single <;> decide) (by cases single <;> decide) _
  · intro place tokens rest deep unended begins
    have reads := reads place (place.next (if single then '\'' else '"')) rest (Nat.succ_pos _)
    rw [List.cons_append, readToken_quote, List.append_assoc, List.cons_append, List.cons_append,
      List.nil_append, readQuotedScalar_inBlock reads]
    refine exists_next_of_lineEnd (by simp [String.ofList_toList]) unended (fun key hm => ?_) begins
    obtain ⟨free, here⟩ := noted_free (by simpa using deep) key hm
    exact ⟨free, here ▸ @Place.line_le_behind (place.next _) _⟩

theorem endsLine_literal {text : String} (style : styleOf text.toList = .literal) :
    EndsLine keyAllowed (' ' :: literal text.toList) [.scalar .literal text] := by
  obtain ⟨shown, filled⟩ := shown_of_styleOf_literal style
  refine endsLine_of_readToken ?_ ?_
  · intro rest
    rw [literal_eq]
    exact beginsLine_cons (by decide) (by decide) (by decide) (by decide) _
  · intro place tokens rest deep unended begins
    have reads := @readBlockScalar_literal place _ _ shown filled begins
    rw [literal_eq, List.cons_append] at reads ⊢
    rw [readToken_literal, readBlockScalar_inBlock reads rfl]
    refine exists_next_of_line (by simp [String.ofList_toList]) unended ?_
      (fun key hm => absurd hm (Option.not_mem_none key)) begins
    rw [← literal_eq]
    exact column_behind_literal shown filled

theorem endsLine_singleQuoted {text : String} (style : styleOf text.toList = .singleQuoted) :
    EndsLine keyAllowed (' ' :: '\'' :: (singleQuotedText false text.toList ++ ['\'', '\n']))
      [.scalar .singleQuoted text] := by
  obtain ⟨shown, noNewline, calm⟩ := calm_of_styleOf_singleQuoted style
  refine @endsLine_quoted keyAllowed true (singleQuotedText false text.toList) text
    fun start place rest begun => ?_
  exact @readQuoted_singleQuotedText start place .none text.toList ('\n' :: rest) shown noNewline
    calm .none (.inr begun) (by simp)

theorem endsLine_doubleQuoted (text : String) :
    EndsLine keyAllowed (' ' :: '"' :: (doubleQuotedText text.toList ++ ['"', '\n']))
      [.scalar .doubleQuoted text] := by
  refine @endsLine_quoted keyAllowed false (doubleQuotedText text.toList) text
    fun start place rest begun => ?_
  exact @readQuoted_doubleQuotedText start place .none text.toList begun rfl ('\n' :: rest)

/-- A text ends its line, however it is written. -/
theorem endsLine_scalar (text : String) :
    EndsLine keyAllowed (' ' :: scalar text) [.scalar (styleOf text.toList) text] := by
  rw [scalar]
  cases style : styleOf text.toList with
  | plain =>
    have ends := @endsLine_plain keyAllowed text.toList (plain_of_styleOf style)
    rwa [String.ofList_toList] at ends
  | singleQuoted => exact endsLine_singleQuoted style
  | doubleQuoted => exact endsLine_doubleQuoted text
  | literal => exact endsLine_literal style
  | folded => exact absurd style (styleOf_ne_folded _)

theorem advance_listStart :
    (inBlock ⟨place, ' ' :: '[' :: rest⟩ tokens [0] none false).advance =
      .ok ⟨⟨(place.next ' ').next '[', rest⟩,
        tokens ++ [⟨.flowSequenceStart, place.next ' ', (place.next ' ').next '['⟩], [0], none,
        [none], true⟩ := by
  have begins : BeginsLine ('[' :: rest) :=
    beginsLine_cons (by decide) (by decide) (by decide) (by decide) rest
  have settles : (inBlock ⟨place, ' ' :: '[' :: rest⟩ tokens [0] none false).toToken.dropStale =
      .ok (inBlock ⟨place.next ' ', '[' :: rest⟩ tokens [0] none false) := by
    rw [toToken_space begins, dropStale_none]
  rw [advance_of_settle (List.forall_mem_singleton.2 rfl) settles, readToken_bracket]
  rfl

theorem advance_listEnd :
    (Scanner.mk ⟨place, ']' :: rest⟩ tokens [0] none [none] true).advance =
      .ok (inBlock ⟨place.next ']', rest⟩
        (tokens ++ [⟨.flowSequenceEnd, place, place.next ']'⟩]) [0] none false) := by
  have begins : BeginsLine (']' :: rest) :=
    beginsLine_cons (by decide) (by decide) (by decide) (by decide) rest
  have here : (Scanner.mk ⟨place, ']' :: rest⟩ tokens [0] none [none] true).toToken =
      Scanner.mk ⟨place, ']' :: rest⟩ tokens [0] none [none] true := by
    rw [toToken]
    simp only [Scanner.place, skipToToken_here begins]
  have reads : (Scanner.mk ⟨place, ']' :: rest⟩ tokens [0] none [none] true).readToken =
      (Scanner.mk ⟨place, ']' :: rest⟩ tokens [0] none [none] true).readFlowEnd
        .flowSequenceEnd := by
    simp [readToken, isBound_eq_false]
  rw [advance, here]
  refine Eq.trans ?_ (congrArg (fun scanner => scanner.bind dropStale) (reads.trans rfl))
  rfl

theorem endsLine_emptyList :
    EndsLine false [' ', '[', ']', '\n'] [.flowSequenceStart, .flowSequenceEnd] := by
  intro place tokens rest deep unended begins
  refine ⟨_, 1 + 1, by decide, (leads_of_advance (isDone_inBlock unended) advance_listStart).trans
    (leads_of_advance (by simp [isDone]) advance_listEnd), ?_⟩
  exact comesTo_of_lineEnd (by simp) (by simpa using unended)
    (fun key hm => absurd hm (Option.not_mem_none key)) begins

/-- A list with entries begins in the next line. -/
theorem endsLine_lineEnd : EndsLine keyAllowed ['\n'] [] := by
  intro place tokens rest deep unended begins
  refine ⟨_, 0, Nat.zero_le _, fun rounds => by rw [Nat.zero_add], ?_⟩
  exact comesTo_of_lineEnd (by simp) (by simpa using unended)
    (fun key hm => absurd hm (Option.not_mem_none key)) begins

/-- Whether the next field is the first of its mapping, which opens at the left edge. -/
def opening (indents : List Nat) : List TokenKind :=
  if indents.isEmpty then [.blockMappingStart] else []

/-- What may be the name of a field: it is no mark at the beginning of a line, and no colon would
come too late behind it. -/
structure FieldName (name : List Char) : Prop where
  plain : Plain name
  noDash : name.head? ≠ some '-'
  noDot : name.head? ≠ some '.'
  short : 4 * name.length ≤ keyLimit

theorem FieldName.isDocumentBound_eq_false {name : List Char} (field : FieldName name)
    (rest : List Char) : isDocumentBound (name ++ rest) = false := by
  cases name with
  | nil => exact absurd rfl field.plain.filled
  | cons c name =>
    have noDash : c ≠ '-' := fun h => field.noDash (congrArg some h)
    have noDot : c ≠ '.' := fun h => field.noDot (congrArg some h)
    rw [List.cons_append, isDocumentBound, isBound_eq_false noDash, isBound_eq_false noDot]
    rfl

/-- A colon behind a name that has been noted as a key. -/
theorem exists_readValue {here : Place} {token : Token} {required : Bool} (first : here.column = 0)
    (edge : indents = [] ∨ indents = [0]) :
    ∃ tokens', tokens'.map Token.kind =
        tokens.map Token.kind ++ (opening indents ++ [.key, token.kind, .value]) ∧
      (inBlock ⟨place, ':' :: rest⟩ (tokens ++ [token]) indents
          (some ⟨required, tokens.length, here⟩) false).readValue =
        .ok (inBlock ⟨place.next ':', rest⟩ tokens' [0] none false) := by
  rcases edge with rfl | rfl
  · refine ⟨tokens ++ [⟨.blockMappingStart, here, here⟩, ⟨.key, here, here⟩, token,
      ⟨.value, place, place.next ':'⟩], by simp [opening], ?_⟩
    simp [readValue, insertKey, insert, isDeeper, pushHere, push, inBlock, first, inFlow,
      Cursor.skip, Scanner.place, pure, Except.pure]
  · refine ⟨tokens ++ [⟨.key, here, here⟩, token, ⟨.value, place, place.next ':'⟩],
      by simp [opening], ?_⟩
    simp [readValue, insertKey, insert, isDeeper, pushHere, push, inBlock, first, inFlow,
      Cursor.skip, Scanner.place, pure, Except.pure]

/-- A name and the colon behind it are a key. -/
theorem exists_leads_key {scanner : Scanner} {before : List TokenKind} {name : List Char}
    (field : FieldName name) (edge : indents = [] ∨ indents = [0]) (ends : endsWord rest = true)
    (comes : scanner.ComesTo before indents (name ++ ':' :: rest)) :
    ∃ place tokens, 0 < Place.column place ∧
      tokens.map Token.kind =
        before ++ (opening indents ++ [.key, .scalar .plain (String.ofList name), .value]) ∧
      Leads (1 + 1) scanner (inBlock ⟨place, rest⟩ tokens [0] none false) := by
  obtain ⟨unended, undone, place, tokens, first, rfl, settles⟩ := comes
  have edge' : ∀ indent ∈ indents, indent = 0 := by rcases edge with rfl | rfl <;> simp
  have outer : (indents.head?.map (· + 1)).getD 0 ≤ 1 := by rcases edge with rfl | rfl <;> simp
  have inLine := field.plain.inLine
  have near : (place.behind name).index ≤ place.index + keyLimit :=
    Nat.le_trans Place.index_behind_le (Nat.add_le_add_left field.short _)
  have line : (place.behind name).line ≤ place.line := (Place.line_behind inLine).le
  have begins : BeginsLine (':' :: rest) :=
    beginsLine_cons (by decide) (by decide) (by decide) (by decide) rest
  -- first the name, which is noted as a key, and then the colon, which makes it one
  have toName : scanner.advance = .ok (inBlock ⟨place.behind name, ':' :: rest⟩
      (tokens ++ [⟨.scalar .plain (String.ofList name), place, place.behind name⟩]) indents
      (noted true tokens indents place) false) := by
    rw [advance_of_settle edge' settles,
      readToken_plain field.plain (fun _ => field.isDocumentBound_eq_false _),
      readPlainScalar_inBlock (field.plain.readPlain_key outer ends) rfl]
    exact dropStale_of_near line near
  obtain ⟨tokens', kinds, reads⟩ := @exists_readValue (place.behind name) tokens indents rest place
    ⟨.scalar .plain (String.ofList name), place, place.behind name⟩
    (decide (indents.head? = some place.column)) first edge
  refine ⟨(place.behind name).next ':', tokens', Nat.succ_pos _, kinds, ?_⟩
  refine (leads_of_advance undone toName).trans
    (leads_of_advance (isDone_inBlock (by simpa using unended)) ?_)
  have settles' {named : List Token} : (inBlock ⟨place.behind name, ':' :: rest⟩ named indents
        (noted true tokens indents place) false).toToken.dropStale =
      .ok (inBlock ⟨place.behind name, ':' :: rest⟩ named indents
        (noted true tokens indents place) false) := by
    rw [toToken_inBlock begins]
    exact dropStale_of_near line near
  rw [advance_of_settle edge' settles', readToken_colon ends]
  exact congrArg (fun scanner => scanner.bind dropStale) reads

/-- A hyphen in front of an entry of a list whose field is at the left edge too. -/
theorem exists_leads_hyphen {scanner : Scanner} {before : List TokenKind}
    (comes : scanner.ComesTo before [0] ('-' :: ' ' :: rest)) :
    ∃ place tokens, 0 < Place.column place ∧ tokens.map Token.kind = before ++ [.blockEntry] ∧
      Leads 1 scanner (inBlock ⟨place, ' ' :: rest⟩ tokens [0] none true) := by
  obtain ⟨unended, undone, place, tokens, first, rfl, settles⟩ := comes
  refine ⟨place.next '-', tokens ++ [⟨.blockEntry, place, place.next '-'⟩], Nat.succ_pos _, by simp,
    leads_of_advance undone ?_⟩
  have noBlock : (inBlock ⟨place, '-' :: ' ' :: rest⟩ tokens [0] none true).openBlock
      .blockSequenceStart = inBlock ⟨place, '-' :: ' ' :: rest⟩ tokens [0] none true := by
    simp [openBlock, isDeeper, first]
  rw [advance_of_settle (List.forall_mem_singleton.2 rfl) settles, readToken_hyphen,
    readBlockEntry, noBlock]
  rfl

theorem scans_field {name chars : List Char} {kinds : List TokenKind} (field : FieldName name)
    (edge : indents = [] ∨ indents = [0]) (ends : ∀ rest, endsWord (chars ++ rest) = true)
    (line : EndsLine false chars kinds) :
    Scans indents (name ++ ':' :: chars)
      (opening indents ++ [.key, .scalar .plain (String.ofList name), .value] ++ kinds) := by
  intro scanner before rest begins comes
  rw [List.append_assoc, List.cons_append] at comes
  obtain ⟨place, tokens, deep, kinds_eq, leads⟩ := exists_leads_key field edge (ends rest) comes
  have unended : .streamEnd ∉ tokens.map Token.kind := by
    rw [kinds_eq]
    rcases edge with rfl | rfl <;> simpa [opening] using comes.unended
  obtain ⟨next, count, few, leads', comes'⟩ := line place tokens rest deep unended begins
  refine ⟨next, (1 + 1) + count, ?_, leads.trans leads', ?_⟩
  · have filled := List.length_pos_of_ne_nil field.plain.filled
    simp only [List.length_append, List.length_cons]
    omega
  · rwa [kinds_eq, List.append_assoc] at comes'

theorem scans_entry {chars : List Char} {kinds : List TokenKind}
    (line : EndsLine true (' ' :: chars) kinds) :
    Scans [0] ('-' :: ' ' :: chars) (.blockEntry :: kinds) := by
  intro scanner before rest begins comes
  obtain ⟨place, tokens, deep, kinds_eq, leads⟩ := exists_leads_hyphen comes
  have unended : .streamEnd ∉ tokens.map Token.kind := by
    rw [kinds_eq]
    simpa using comes.unended
  obtain ⟨next, count, few, leads', comes'⟩ := line place tokens rest deep unended begins
  refine ⟨next, 1 + count, ?_, leads.trans leads', ?_⟩
  · rw [List.length_cons]
    omega
  · rwa [kinds_eq, List.append_assoc] at comes'

end BehaviorDiff.Yaml.Scanner
