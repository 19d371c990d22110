import BehaviorDiff.Proofs.Yaml.WrittenMapping
import BehaviorDiff.Yaml.Document

set_option autoImplicit false

/-!
The events of a written mapping, and the items that its document has. A parser goes through the
tokens of a field and is back where it was; what it tells of the field does not depend on the places
of the tokens.
-/

namespace BehaviorDiff.Yaml

/-- A scalar without properties. -/
def scalarEvent (style : ScalarStyle) (text : String) : Event := .scalar ⟨none, none⟩ style text

namespace FieldValue

/-- The events of a value. -/
def events : FieldValue → List Event
  | text value => [scalarEvent (Printer.styleOf value.toList) value]
  | texts values =>
    .sequenceStart ⟨none, none⟩ ::
      (values.map fun value => scalarEvent (Printer.styleOf value.toList) value) ++ [.sequenceEnd]
  | boolean value => [scalarEvent .plain (if value then "true" else "false")]

end FieldValue

/-- The events of the fields of a mapping. -/
def mappingEvents (fields : List (String × FieldValue)) : List Event :=
  fields.flatMap fun (name, value) => scalarEvent .plain name :: value.events

namespace Parser

/-- Some rounds lead from one parser to another, with some events on the way. -/
def Emits (rounds : Nat) (parser : Parser) (events : List Event) (next : Parser) : Prop :=
  ∃ placed : List (Event × Place), placed.map Prod.fst = events ∧
    ∀ more, EventStream.ofParser parser (more + rounds) =
      { EventStream.ofParser next more with
        events := placed ++ (EventStream.ofParser next more).events }

theorem Emits.trans {first second : Nat} {a b c : Parser} {events events' : List Event}
    (ab : Emits first a events b) (bc : Emits second b events' c) :
    Emits (first + second) a (events ++ events') c := by
  obtain ⟨placed, rfl, reads⟩ := ab
  obtain ⟨placed', rfl, reads'⟩ := bc
  refine ⟨placed ++ placed', List.map_append, fun more => ?_⟩
  rw [Nat.add_comm first, ← Nat.add_assoc, reads, reads', List.append_assoc]

/-- A parser that has met no fault. -/
def expecting (handles : List (String × Octets)) (expectations : List Expectation)
    (tokens : List Token) : Parser :=
  ⟨expectations, tokens, none, handles⟩

variable {handles : List (String × Octets)} {others : List Expectation} {tokens : List Token}
  {kinds more : List TokenKind}

theorem exists_cons_of_kinds {kind : TokenKind} (kinds_eq : tokens.map Token.kind = kind :: kinds) :
    ∃ start stop rest, tokens = ⟨kind, start, stop⟩ :: rest ∧ rest.map Token.kind = kinds := by
  obtain ⟨⟨_, start, stop⟩, rest, rfl, rfl, rest_eq⟩ := List.map_eq_cons_iff.1 kinds_eq
  exact ⟨start, stop, rest, rfl, rest_eq⟩

/-- A list at the column of its field ends in front of anything that is no entry. -/
theorem emits_entriesEnd (ends : (tokens.map Token.kind).head? ≠ some .blockEntry) :
    Emits 1 (expecting handles (.indentlessSequence :: others) tokens) [.sequenceEnd]
      (expecting handles others tokens) := by
  rcases tokens with _ | ⟨⟨kind, start, stop⟩, tokens⟩
  · exact ⟨[(.sequenceEnd, .start)], rfl, fun more => rfl⟩
  · refine ⟨[(.sequenceEnd, start)], rfl, fun more => ?_⟩
    cases kind with
    | blockEntry => exact absurd rfl ends
    | _ => rfl

theorem emits_entries (values : List String) (ends : more.head? ≠ some .blockEntry) :
    ∀ tokens, tokens.map Token.kind =
        (values.flatMap fun value => [.blockEntry, FieldValue.scalarToken value]) ++ more →
      ∃ rest, rest.map Token.kind = more ∧
        Emits (2 * values.length + 1)
          (expecting handles (.indentlessSequence :: others) tokens)
          ((values.map fun value => scalarEvent (Printer.styleOf value.toList) value) ++
            [.sequenceEnd])
          (expecting handles others rest) := by
  induction values with
  | nil =>
    intro tokens kinds_eq
    subst kinds_eq
    exact ⟨tokens, rfl, emits_entriesEnd ends⟩
  | cons value values ih =>
    intro tokens kinds_eq
    obtain ⟨hyphen, hyphen', behind, rfl, behind_eq⟩ := exists_cons_of_kinds kinds_eq
    obtain ⟨start, stop, rest, rfl, rest_eq⟩ := exists_cons_of_kinds behind_eq
    obtain ⟨rest', rest_eq', emits⟩ := ih rest rest_eq
    have entry : Emits 2
        (expecting handles (.indentlessSequence :: others)
          (⟨.blockEntry, hyphen, hyphen'⟩ :: ⟨FieldValue.scalarToken value, start, stop⟩ :: rest))
        [scalarEvent (Printer.styleOf value.toList) value]
        (expecting handles (.indentlessSequence :: others) rest) :=
      ⟨[(scalarEvent (Printer.styleOf value.toList) value, start)], rfl, fun more => rfl⟩
    have rounds : 2 * (value :: values).length + 1 = 2 + (2 * values.length + 1) := by
      rw [List.length_cons]
      omega
    exact ⟨rest', rest_eq', rounds ▸ entry.trans emits⟩

theorem emits_listStart {name : String} {opened key key' start start' value value' hyphen hyphen' :
      Place} :
    Emits 4
      (expecting handles (.blockMappingKey opened :: others)
        (⟨.key, key, key'⟩ :: ⟨.scalar .plain name, start, start'⟩ :: ⟨.value, value, value'⟩ ::
          ⟨.blockEntry, hyphen, hyphen'⟩ :: tokens))
      [scalarEvent .plain name, .sequenceStart ⟨none, none⟩]
      (expecting handles (.indentlessSequence :: .blockMappingKey opened :: others)
        (⟨.blockEntry, hyphen, hyphen'⟩ :: tokens)) :=
  ⟨[(_, start), (_, hyphen)], rfl, fun _ => rfl⟩

/-- A field is told with its name and its value. -/
theorem exists_emits_field {name : String} (value : FieldValue) (opened : Place)
    (kinds_eq : tokens.map Token.kind = FieldValue.fieldTokens name value ++ more)
    (ends : more.head? ≠ some .blockEntry) :
    ∃ rest rounds, rest.map Token.kind = more ∧
      rounds ≤ 2 * (FieldValue.fieldTokens name value).length ∧
      Emits rounds (expecting handles (.blockMappingKey opened :: others) tokens)
        (scalarEvent .plain name :: value.events)
        (expecting handles (.blockMappingKey opened :: others) rest) := by
  obtain ⟨_, _, tokens₁, rfl, kinds₁⟩ := exists_cons_of_kinds kinds_eq
  obtain ⟨start, _, tokens₂, rfl, kinds₂⟩ := exists_cons_of_kinds kinds₁
  obtain ⟨_, _, tokens₃, rfl, kinds₃⟩ := exists_cons_of_kinds kinds₂
  cases value with
  | text value =>
    obtain ⟨start', _, rest, rfl, rest_eq⟩ := exists_cons_of_kinds kinds₃
    exact ⟨rest, 4, rest_eq, by simp [FieldValue.fieldTokens, FieldValue.tokens],
      [(_, start), (_, start')], rfl, fun more => rfl⟩
  | boolean value =>
    obtain ⟨start', _, rest, rfl, rest_eq⟩ := exists_cons_of_kinds kinds₃
    exact ⟨rest, 4, rest_eq, by simp [FieldValue.fieldTokens, FieldValue.tokens],
      [(_, start), (_, start')], rfl, fun more => rfl⟩
  | texts values =>
    cases values with
    | nil =>
      obtain ⟨start', _, tokens₄, rfl, kinds₄⟩ := exists_cons_of_kinds kinds₃
      obtain ⟨stop, _, rest, rfl, rest_eq⟩ := exists_cons_of_kinds kinds₄
      exact ⟨rest, 5, rest_eq, by simp [FieldValue.fieldTokens, FieldValue.tokens],
        [(_, start), (_, start'), (_, stop)], rfl, fun more => rfl⟩
    | cons value values =>
      obtain ⟨rest, rest_eq, emits⟩ := emits_entries (value :: values) ends _ kinds₃
      obtain ⟨start', _, tokens₄, rfl, -⟩ := exists_cons_of_kinds kinds₃
      refine ⟨rest, 4 + (2 * (value :: values).length + 1), rest_eq, ?_,
        emits_listStart.trans emits⟩
      have hyphens : (FieldValue.texts (value :: values)).tokens.length =
          2 * (value :: values).length := by
        simp [FieldValue.tokens, List.length_flatMap]
        omega
      rw [FieldValue.fieldTokens, List.length_append, hyphens]
      simp
      omega

theorem exists_emits_fields (opened : Place) (fields : List (String × FieldValue))
    (ends : more.head? ≠ some .blockEntry) :
    ∀ tokens, tokens.map Token.kind = mappingTokens fields ++ more →
      ∃ rest rounds, rest.map Token.kind = more ∧ rounds ≤ 2 * (mappingTokens fields).length ∧
        Emits rounds (expecting handles (.blockMappingKey opened :: others) tokens)
          (mappingEvents fields) (expecting handles (.blockMappingKey opened :: others) rest) := by
  induction fields with
  | nil => exact fun tokens kinds_eq => ⟨tokens, 0, kinds_eq, Nat.le_refl 0, [], rfl, fun _ => rfl⟩
  | cons field fields ih =>
    intro tokens kinds_eq
    rw [mappingTokens, List.flatMap_cons, List.append_assoc] at kinds_eq
    have ends' : (mappingTokens fields ++ more).head? ≠ some .blockEntry := by
      cases fields with
      | nil => exact ends
      | cons next fields => exact fun h => by cases h
    obtain ⟨behind, rounds, behind_eq, few, emits⟩ :=
      exists_emits_field field.2 opened kinds_eq ends'
    obtain ⟨rest, rounds', rest_eq, few', emits'⟩ := ih behind behind_eq
    refine ⟨rest, rounds + rounds', rest_eq, ?_, emits.trans emits'⟩
    rw [mappingTokens, List.flatMap_cons, List.length_append, Nat.mul_add]
    exact Nat.add_le_add few few'

/-- A text that begins with a mapping has one document. -/
theorem emits_start {opened opened' : Place} :
    Emits 2 ⟨[.firstDocument], ⟨.blockMappingStart, opened, opened'⟩ :: tokens, none, []⟩
      [.documentStart, .mappingStart ⟨none, none⟩]
      (expecting defaultHandles [.blockMappingKey opened, .documentEnd] tokens) :=
  ⟨[(_, opened), (_, opened)], rfl, fun _ => rfl⟩

theorem emits_end {opened start start' stop stop' : Place} :
    Emits 3
      (expecting handles [.blockMappingKey opened, .documentEnd]
        [⟨.blockEnd, start, start'⟩, ⟨.streamEnd, stop, stop'⟩])
      [.mappingEnd, .documentEnd, .streamEnd]
      (expecting handles [] [⟨.streamEnd, stop, stop'⟩]) :=
  ⟨[(_, start), (_, stop), (_, stop)], rfl, fun _ => rfl⟩

theorem Emits.ofParser {rounds bound : Nat} {parser : Parser} {events : List Event}
    (emits : Emits rounds parser events (expecting handles [] tokens)) (enough : rounds ≤ bound) :
    ∃ placed : List (Event × Place), placed.map Prod.fst = events ∧
      EventStream.ofParser parser bound = ⟨placed, none⟩ := by
  obtain ⟨placed, events_eq, reads⟩ := emits
  refine ⟨placed, events_eq, ?_⟩
  have last : EventStream.ofParser (expecting handles [] tokens) (bound - rounds) = ⟨[], none⟩ := by
    cases bound - rounds <;> rfl
  rw [← Nat.sub_add_cancel enough, reads, last, List.append_nil]

/-- The events of a text that is a written mapping. -/
theorem exists_ofText_events {fields : List (String × FieldValue)} (filled : fields ≠ [])
    (names : ∀ field ∈ fields, Scanner.FieldName field.1.toList) :
    ∃ placed : List (Event × Place), placed.map Prod.fst =
        [.documentStart, .mappingStart ⟨none, none⟩] ++ mappingEvents fields ++
          [.mappingEnd, .documentEnd, .streamEnd] ∧
      EventStream.ofText (String.ofList (writtenMapping fields)) = ⟨placed, none⟩ := by
  obtain ⟨tokens, kinds, reads⟩ := Scanner.exists_ofText_mapping filled names
  have length := congrArg List.length kinds
  obtain ⟨opened, opened', behind, rfl, behind_eq⟩ := exists_cons_of_kinds kinds
  obtain ⟨rest, rounds, rest_eq, few, emits⟩ :=
    exists_emits_fields opened fields (by simp) behind behind_eq
  obtain ⟨start, start', rest', rfl, rest_eq'⟩ := exists_cons_of_kinds rest_eq
  obtain ⟨stop, stop', rest'', rfl, last⟩ := exists_cons_of_kinds rest_eq'
  obtain rfl := List.map_eq_nil_iff.1 last
  rw [EventStream.ofText, reads]
  -- no field takes more than two rounds for each of its tokens
  refine ((emits_start.trans emits).trans emits_end).ofParser ?_
  simp only [List.length_map, List.length_append, List.length_cons, List.length_nil] at length ⊢
  rw [EventStream.roundsPerToken]
  omega

end Parser

end BehaviorDiff.Yaml
