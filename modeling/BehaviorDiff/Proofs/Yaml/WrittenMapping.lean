import BehaviorDiff.Proofs.Yaml.AllowedText
import BehaviorDiff.Proofs.Yaml.ScannedLines

set_option autoImplicit false

/-!
The tokens of a mapping that is written field by field, each with a text, a list of texts or a truth
value.
-/

namespace BehaviorDiff.Yaml

/-- What a field is written with. -/
inductive FieldValue where
  | text (value : String)
  | texts (values : List String)
  | boolean (value : Bool)

namespace FieldValue

/-- A field as it is written. -/
def written (name : String) : FieldValue → List Char
  | text value => Printer.field name value
  | texts values => Printer.listField name values
  | boolean value => Printer.booleanField name value

/-- The scalar that a text is written as. -/
def scalarToken (value : String) : TokenKind := .scalar (Printer.styleOf value.toList) value

/-- The tokens of a value. -/
def tokens : FieldValue → List TokenKind
  | text value => [scalarToken value]
  | texts [] => [.flowSequenceStart, .flowSequenceEnd]
  | texts values => values.flatMap fun value => [.blockEntry, scalarToken value]
  | boolean value => [.scalar .plain (if value then "true" else "false")]

/-- The tokens of a field. -/
def fieldTokens (name : String) (value : FieldValue) : List TokenKind :=
  [.key, .scalar .plain name, .value] ++ value.tokens

end FieldValue

/-- A mapping as it is written. -/
def writtenMapping (fields : List (String × FieldValue)) : List Char :=
  fields.flatMap fun (name, value) => value.written name

/-- The tokens of the fields of a mapping. -/
def mappingTokens (fields : List (String × FieldValue)) : List TokenKind :=
  fields.flatMap fun (name, value) => FieldValue.fieldTokens name value

namespace Scanner

open Printer

variable {indents : List Nat} {name : String}

theorem beginsLine_hyphen (rest : List Char) : BeginsLine ('-' :: rest) :=
  beginsLine_cons (by decide) (by decide) (by decide) (by decide) rest

theorem scans_nil : Scans [0] [] [] := by
  intro scanner before rest begins comes
  refine ⟨scanner, 0, Nat.le_refl 0, fun rounds => by rw [Nat.zero_add], ?_⟩
  rwa [List.append_nil]

theorem scans_entries (values : List String) :
    Scans [0] (values.flatMap fun value => '-' :: ' ' :: scalar value)
      (values.flatMap fun value => [.blockEntry, FieldValue.scalarToken value]) := by
  induction values with
  | nil => exact scans_nil
  | cons value values ih =>
    rw [List.flatMap_cons, List.flatMap_cons]
    refine (scans_entry (endsLine_scalar value)).append ih fun rest begins => ?_
    cases values with
    | nil => exact begins
    | cons value values => exact beginsLine_hyphen _

theorem scans_written (field : FieldName name.toList) (edge : indents = [] ∨ indents = [0])
    (value : FieldValue) :
    Scans indents (value.written name) (opening indents ++ FieldValue.fieldTokens name value) := by
  rw [FieldValue.fieldTokens, ← List.append_assoc]
  cases value with
  | text value =>
    have scans := scans_field field edge (fun rest => rfl) (endsLine_scalar value)
    rw [String.ofList_toList] at scans
    exact scans
  | boolean value =>
    have plain : Plain (if value then "true" else "false").toList := by cases value <;> decide
    have scans := scans_field field edge (fun rest => rfl) (endsLine_plain plain)
    rw [String.ofList_toList, String.ofList_toList] at scans
    rw [FieldValue.written, booleanField, List.append_assoc]
    exact scans
  | texts values =>
    cases values with
    | nil =>
      have scans := scans_field field edge (fun rest => rfl) endsLine_emptyList
      rw [String.ofList_toList] at scans
      exact scans
    | cons value values =>
      have scans := (scans_field field edge (fun rest => rfl) endsLine_lineEnd).append
        (scans_entries (value :: values)) fun rest _ => beginsLine_hyphen _
      rw [String.ofList_toList, List.append_nil] at scans
      simpa [FieldValue.written, Printer.listField, FieldValue.tokens] using scans

theorem beginsLine_written (field : FieldName name.toList) (value : FieldValue)
    (rest : List Char) : BeginsLine (value.written name ++ rest) := by
  have lead : ∃ more, value.written name = name.toList ++ more := by
    cases value with
    | text value => exact ⟨_, rfl⟩
    | boolean value => exact ⟨_, List.append_assoc _ _ _⟩
    | texts values => cases values <;> exact ⟨_, rfl⟩
  obtain ⟨more, lead⟩ := lead
  rw [lead, List.append_assoc]
  exact field.plain.beginsLine _

theorem beginsLine_mapping {fields : List (String × FieldValue)} {rest : List Char}
    (names : ∀ field ∈ fields, FieldName field.1.toList) (begins : BeginsLine rest) :
    BeginsLine (writtenMapping fields ++ rest) := by
  cases fields with
  | nil => exact begins
  | cons field fields =>
    rw [writtenMapping, List.flatMap_cons, List.append_assoc]
    exact beginsLine_written (names field List.mem_cons_self) field.2 _

/-- Fields below the first are taken as their tokens. -/
theorem scans_fields {fields : List (String × FieldValue)}
    (names : ∀ field ∈ fields, FieldName field.1.toList) :
    Scans [0] (writtenMapping fields) (mappingTokens fields) := by
  induction fields with
  | nil => exact scans_nil
  | cons field fields ih =>
    rw [List.forall_mem_cons] at names
    exact (scans_written names.1 (.inr rfl) field.2).append (ih names.2)
      fun rest begins => beginsLine_mapping names.2 begins

/-- The fields of a mapping are taken as a block. -/
theorem scans_mapping {fields : List (String × FieldValue)} (filled : fields ≠ [])
    (names : ∀ field ∈ fields, FieldName field.1.toList) :
    Scans [] (writtenMapping fields) (.blockMappingStart :: mappingTokens fields) := by
  cases fields with
  | nil => exact absurd rfl filled
  | cons field fields =>
    rw [List.forall_mem_cons] at names
    exact (scans_written names.1 (.inl rfl) field.2).append (scans_fields names.2)
      fun rest begins => beginsLine_mapping names.2 begins

/-- At the end of a text the block ends. -/
theorem exists_ofScanner_end {scanner : Scanner} {kinds : List TokenKind}
    (comes : scanner.ComesTo kinds [0] []) (rounds : Nat) :
    ∃ tokens, tokens.map Token.kind = kinds ++ [.blockEnd, .streamEnd] ∧
      TokenStream.ofScanner scanner (rounds + 2) = ⟨tokens, none⟩ := by
  obtain ⟨-, undone, place, tokens, first, rfl, settles⟩ := comes
  refine ⟨tokens ++ [⟨.blockEnd, place, place⟩, ⟨.streamEnd, place, place⟩], by simp, ?_⟩
  have reads : (inBlock ⟨place, []⟩ tokens [0] none true).readToken =
      .ok (inBlock ⟨place, []⟩
        (tokens ++ [⟨.blockEnd, place, place⟩, ⟨.streamEnd, place, place⟩]) [] none false) := by
    simp [readToken, readEnd, inBlock, Scanner.place, first, closeBlocks, closeAll, inFlow, dropKey,
      push, bind, Except.bind, pure, Except.pure]
  have last := advance_of_settle (List.forall_mem_singleton.2 rfl) settles
  rw [reads] at last
  have done : (inBlock ⟨place, []⟩
      (tokens ++ [⟨.blockEnd, place, place⟩, ⟨.streamEnd, place, place⟩]) [] none false).isDone =
        true := by
    simp [isDone, inBlock]
  rw [TokenStream.ofScanner, if_neg (by simp [undone]), last]
  exact if_pos done

theorem allowed_written (field : FieldName name.toList) (value : FieldValue) :
    Allowed (value.written name) := by
  have name := allowed_of_isPrintable field.plain.shown
  cases value with
  | text value => exact name.append (.cons (by decide) (.cons (by decide) (allowed_scalar value)))
  | boolean value =>
    refine (name.append (.cons (by decide) (.cons (by decide) ?_))).append (by decide)
    cases value <;> decide
  | texts values =>
    rw [FieldValue.written, Printer.listField]
    split
    · exact name.append (by decide)
    · refine name.append (.cons (by decide) (.cons (by decide) fun c hm => ?_))
      obtain ⟨value, -, hm⟩ := List.mem_flatMap.1 hm
      have entry : Allowed ('-' :: ' ' :: scalar value) :=
        .cons (by decide) (.cons (by decide) (allowed_scalar value))
      exact entry c hm

theorem allowed_mapping {fields : List (String × FieldValue)}
    (names : ∀ field ∈ fields, FieldName field.1.toList) : Allowed (writtenMapping fields) := by
  intro c hm
  obtain ⟨field, hf, hm⟩ := List.mem_flatMap.1 hm
  exact allowed_written (names field hf) field.2 c hm

/-- A text without a mark in front is read from its beginning. -/
theorem ofText_eq_ofScanner {chars : List Char} (allowed : Allowed chars)
    (begins : BeginsLine chars) :
    TokenStream.ofText (String.ofList chars) =
      TokenStream.ofScanner (.start chars) (chars.length + 2) := by
  rw [TokenStream.ofText, String.toList_ofList, forbiddenOffset?_eq_none allowed]
  cases chars with
  | nil => rfl
  | cons c chars =>
    have noMark : c ≠ byteOrderMark := (begins c rfl).2.2.2
    simp only [if_neg noMark]

theorem exists_ofText_mapping {fields : List (String × FieldValue)} (filled : fields ≠ [])
    (names : ∀ field ∈ fields, FieldName field.1.toList) :
    ∃ tokens, tokens.map Token.kind =
        .blockMappingStart :: mappingTokens fields ++ [.blockEnd, .streamEnd] ∧
      TokenStream.ofText (String.ofList (writtenMapping fields)) = ⟨tokens, none⟩ := by
  have nothing : BeginsLine [] := fun c hm => absurd hm (Option.not_mem_none c)
  have begins := beginsLine_mapping names nothing
  rw [List.append_nil] at begins
  have comes : ComesTo (.start (writtenMapping fields)) [] [] (writtenMapping fields ++ []) := by
    refine ⟨List.not_mem_nil, rfl, .start, [], rfl, rfl, ?_⟩
    rw [List.append_nil, ← dropStale_none, ← toToken_inBlock begins]
    rfl
  obtain ⟨next, count, few, leads, comes'⟩ := scans_mapping filled names _ _ _ nothing comes
  obtain ⟨tokens, kinds, reads⟩ :=
    exists_ofScanner_end comes' ((writtenMapping fields).length - count)
  refine ⟨tokens, kinds, ?_⟩
  -- no line has more tokens than characters, so the rounds are enough
  rw [ofText_eq_ofScanner (allowed_mapping names) begins, ← reads, ← leads]
  congr 1
  omega

end Scanner

end BehaviorDiff.Yaml
