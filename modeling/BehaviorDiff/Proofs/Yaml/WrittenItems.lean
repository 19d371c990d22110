import BehaviorDiff.Proofs.Yaml.WrittenEvents

set_option autoImplicit false

/-!
What is taken from a written mapping. A reader that takes the items of each field takes the mapping;
it never looks behind the items that are its own.
-/

namespace BehaviorDiff.Yaml

namespace FieldValue

/-- The items of a value. -/
def items : FieldValue → List Item
  | text value => [.scalar none (Printer.styleOf value.toList) value]
  | texts values =>
    .sequenceStart none ::
      (values.map fun value => .scalar none (Printer.styleOf value.toList) value) ++ [.sequenceEnd]
  | boolean value => [.scalar none .plain (if value then "true" else "false")]

end FieldValue

/-- The items of the fields of a mapping. -/
def mappingItems (fields : List (String × FieldValue)) : List Item :=
  fields.flatMap fun (name, value) => .scalar none .plain name :: value.items

namespace Document

/-- The item that an event within a document stands for, if it has no anchor. -/
def plainItem? : Event → Option Item
  | .scalar ⟨none, tag?⟩ style text => some (.scalar tag? style text)
  | .sequenceStart ⟨none, tag?⟩ => some (.sequenceStart tag?)
  | .sequenceEnd => some .sequenceEnd
  | .mappingStart ⟨none, tag?⟩ => some (.mappingStart tag?)
  | .mappingEnd => some .mappingEnd
  | _ => none

theorem items_mappingEvents (fields : List (String × FieldValue)) :
    (mappingEvents fields).map plainItem? = (mappingItems fields).map some := by
  induction fields with
  | nil => rfl
  | cons field fields ih =>
    have value : field.2.events.map plainItem? = field.2.items.map some := by
      cases field.2 with
      | text value => rfl
      | boolean value => rfl
      | texts values => simp [FieldValue.events, FieldValue.items, scalarEvent, plainItem?]
    rw [mappingEvents, mappingItems, List.flatMap_cons, List.flatMap_cons, List.map_append,
      List.map_append, List.map_cons, List.map_cons, value]
    exact congrArg _ ih

theorem ofEvents_cons_of_plainItem? {fault? : Option Fault} {anchors : Anchors} {position : Nat}
    {event : Event} {item : Item} (plain : plainItem? event = some item) (place : Place)
    (rest : List (Event × Place)) :
    ofEvents fault? anchors position ((event, place) :: rest) =
      (ofEvents fault? anchors (position + 1) rest).after item place := by
  unfold plainItem? at plain
  split at plain <;> cases plain <;> rfl

/-- Events without anchors give their items, up to the end of their document. -/
theorem exists_ofEvents {fault? : Option Fault} {anchors : Anchors} {stop stop' : Place}
    {placed : List (Event × Place)} {items : List Item}
    (plain : (placed.map Prod.fst).map plainItem? = items.map some) :
    ∃ found : List (Item × Place), found.map Prod.fst = items ∧ ∀ position,
      ofEvents fault? anchors position (placed ++ [(.documentEnd, stop), (.streamEnd, stop')]) =
        ⟨found, anchors.targets, none, true⟩ := by
  induction placed generalizing items with
  | nil =>
    obtain rfl := List.map_eq_nil_iff.1 plain.symm
    exact ⟨[], rfl, fun position => rfl⟩
  | cons event placed ih =>
    obtain ⟨item, items, rfl, here, later⟩ := List.map_eq_cons_iff.1 plain.symm
    obtain ⟨found, found_eq, reads⟩ := ih later.symm
    refine ⟨(item, event.2) :: found, by rw [List.map_cons, found_eq], fun position => ?_⟩
    rw [List.cons_append, ofEvents_cons_of_plainItem? here.symm, reads]
    rfl

/-- The document of a text that is a written mapping. -/
theorem exists_ofText_items {fields : List (String × FieldValue)} (filled : fields ≠ [])
    (names : ∀ field ∈ fields, Scanner.FieldName field.1.toList) :
    ∃ found : List (Item × Place),
      found.map Prod.fst = .mappingStart none :: mappingItems fields ++ [.mappingEnd] ∧
      Document.ofText (String.ofList (writtenMapping fields)) = ⟨found, [], none, true⟩ := by
  obtain ⟨placed, events, reads⟩ := Parser.exists_ofText_events filled names
  have inside :
      (Event.mappingStart ⟨none, none⟩ :: mappingEvents fields ++ [Event.mappingEnd]).map
        plainItem? =
      (Item.mappingStart none :: mappingItems fields ++ [Item.mappingEnd]).map some := by
    rw [List.map_append, List.map_cons, items_mappingEvents, List.map_append]
    rfl
  have split : placed.map Prod.fst = .documentStart ::
      (.mappingStart ⟨none, none⟩ :: mappingEvents fields ++ [.mappingEnd] ++
        [.documentEnd, .streamEnd]) := by
    simpa using events
  obtain ⟨⟨_, start⟩, behind, rfl, rfl, behind_eq⟩ := List.map_eq_cons_iff.1 split
  obtain ⟨within, last, rfl, within_eq, last_eq⟩ := List.map_eq_append_iff.1 behind_eq
  obtain ⟨⟨_, stop⟩, last', rfl, rfl, last_eq'⟩ := List.map_eq_cons_iff.1 last_eq
  obtain ⟨⟨_, stop'⟩, nothing, rfl, rfl, nothing_eq⟩ := List.map_eq_cons_iff.1 last_eq'
  obtain rfl := List.map_eq_nil_iff.1 nothing_eq
  rw [← within_eq] at inside
  obtain ⟨found, found_eq, items⟩ := exists_ofEvents inside
  refine ⟨found, found_eq, ?_⟩
  rw [Document.ofText, reads]
  exact items 0

end Document

namespace ItemReader

variable {α β : Type}

/-- A reader takes some items as a value, whatever is behind them. -/
def Takes (reader : ItemReader α) (items : List Item) (value : α) : Prop :=
  ∀ document placed rest, List.map Prod.fst placed = items →
    reader document (placed ++ rest) = .ok (value, rest)

theorem takes_single {reader : ItemReader α} {item : Item} {value : α}
    (takes : ∀ document place rest, reader document ((item, place) :: rest) = .ok (value, rest)) :
    Takes reader [item] value := by
  intro document placed rest items
  obtain ⟨⟨_, place⟩, more, rfl, rfl, nothing⟩ := List.map_eq_cons_iff.1 items
  obtain rfl := List.map_eq_nil_iff.1 nothing
  exact takes document place rest

theorem Takes.bind {reader : ItemReader α} {next : α → ItemReader β} {items items' : List Item}
    {value : α} {value' : β} (takes : Takes reader items value)
    (takes' : Takes (next value) items' value') :
    Takes (reader >>= next) (items ++ items') value' := by
  intro document placed rest both
  obtain ⟨first, second, rfl, firsts, seconds⟩ := List.map_eq_append_iff.1 both
  have here := takes document first (second ++ rest) firsts
  have there := takes' document second rest seconds
  rw [List.append_assoc]
  exact (congrArg (fun found => found.bind fun found => next found.1 document found.2) here).trans
    there

theorem Takes.map {reader : ItemReader α} {items : List Item} {value : α}
    (takes : Takes reader items value) (f : α → β) : Takes (f <$> reader) items (f value) := by
  intro document placed rest items_eq
  exact congrArg (fun found => found.map fun found => (f found.1, found.2))
    (takes document placed rest items_eq)

theorem takes_text (expected : String) (path : FieldPath) (tag? : Option Octets)
    (style : ScalarStyle) (value : String) :
    Takes (text expected path) [.scalar tag? style value] value :=
  takes_single fun _ _ _ => rfl

theorem takes_boolean (path : FieldPath) (value : Bool) :
    Takes (boolean path) (FieldValue.boolean value).items value :=
  takes_single fun _ _ _ => by cases value <;> rfl

/-- A name without a tag is taken as the choice that has it. -/
theorem takes_choice {choices : List (String × α)} {name : String} {value : α}
    (known : choices.lookup name = some value) (path : FieldPath) (style : ScalarStyle) :
    Takes (choice choices path) [.scalar none style name] value := by
  refine takes_single fun document place rest => ?_
  have chooses : chosen choices name (some (path, place)) = pure value := by rw [chosen, known]
  change (chosen choices name (some (path, place)) >>= fun value => next >>= fun _ => pure value)
    document ((.scalar none style name, place) :: rest) = .ok (value, rest)
  rw [chooses]
  rfl

theorem takes_entries (name? : Option String) (values : List String) :
    ∀ rounds index, values.length < rounds →
      Takes (entries name? index rounds)
        ((values.map fun value => .scalar none (Printer.styleOf value.toList) value) ++
          [.sequenceEnd]) values := by
  induction values with
  | nil =>
    intro rounds index enough
    obtain ⟨rounds, rfl⟩ := Nat.exists_eq_succ_of_ne_zero (Nat.ne_zero_of_lt enough)
    exact takes_single fun _ _ _ => rfl
  | cons value values ih =>
    intro rounds index enough document placed rest items
    obtain ⟨rounds, rfl⟩ := Nat.exists_eq_succ_of_ne_zero (Nat.ne_zero_of_lt enough)
    have later := ih rounds (index + 1) (Nat.lt_of_succ_lt_succ enough)
    have both : Takes
        (text "a string" (.entry name? index) >>= fun first =>
          (first :: ·) <$> entries name? (index + 1) rounds)
        (.scalar none (Printer.styleOf value.toList) value :: _) (value :: values) :=
      (takes_text _ _ _ _ value).bind (later.map (value :: ·))
    have all := both document placed rest items
    obtain ⟨⟨_, place⟩, more, rfl, rfl, -⟩ := List.map_eq_cons_iff.1 items
    exact all

theorem takes_texts (name? : Option String) (values : List String) :
    Takes (texts name?) (FieldValue.texts values).items values := by
  intro document placed rest items
  obtain ⟨⟨_, place⟩, more, rfl, rfl, items'⟩ := List.map_eq_cons_iff.1 items
  refine takes_entries name? values ((more ++ rest).length + 1) 0 ?_ document more rest items'
  have length : more.length = values.length + 1 := by
    rw [← List.length_map, items']
    exact List.length_append.trans (congrArg (· + 1) (List.length_map _))
  rw [List.length_append]
  omega

theorem takes_fields_end (field : α → String → Option String → ItemReader α) (value : α)
    (rounds : Nat) : Takes (fields field value (rounds + 1)) [.mappingEnd] value :=
  takes_single fun _ _ _ => rfl

/-- A field is taken by its name, and then the fields behind it. -/
theorem takes_fields_cons {field : α → String → Option String → ItemReader α} {first next last : α}
    {name : String} {style : ScalarStyle} {items others : List Item} {rounds : Nat}
    (here : Takes (field first name (some name)) items next)
    (later : Takes (fields field next rounds) others last) :
    Takes (fields field first (rounds + 1)) (.scalar none style name :: (items ++ others))
      last := by
  intro document placed rest all
  have named : Takes
      (text "field identifier" .root >>= fun name' =>
        field first name' (some name) >>= fun next => fields field next rounds)
      (.scalar none style name :: (items ++ others)) last :=
    (takes_text _ _ _ _ name).bind (here.bind later)
  have taken := named document placed rest all
  obtain ⟨⟨_, place⟩, more, rfl, rfl, -⟩ := List.map_eq_cons_iff.1 all
  exact taken

/-- A mapping is taken as what its fields make of it. -/
theorem takes_record {field : α → String → Option String → ItemReader α} {first last : α}
    {items : List Item} (expected : String)
    (takes : ∀ rounds, items.length ≤ rounds → Takes (fields field first rounds) items last) :
    Takes (record expected field first) (.mappingStart none :: items) last := by
  intro document placed rest all
  obtain ⟨⟨_, place⟩, more, rfl, rfl, items_eq⟩ := List.map_eq_cons_iff.1 all
  have enough : items.length ≤ (more ++ rest).length + 1 := by
    rw [← items_eq, List.length_map, List.length_append]
    omega
  have taken := takes _ enough document more rest items_eq
  change Except.tryCatch
    (fields field first ((more ++ rest).length + 1) document (more ++ rest)) _ = .ok (last, rest)
  rw [taken]
  rfl

end ItemReader

/-- A written mapping is decoded as what a reader takes from its items. -/
theorem decode_mapping {α : Type} {reader : ItemReader α} {value : α}
    {fields : List (String × FieldValue)} (filled : fields ≠ [])
    (names : ∀ field ∈ fields, Scanner.FieldName field.1.toList)
    (takes : reader.Takes (.mappingStart none :: mappingItems fields ++ [.mappingEnd]) value) :
    decode reader (String.ofList (writtenMapping fields)) = .ok value := by
  obtain ⟨found, items, reads⟩ := Document.exists_ofText_items filled names
  have taken := takes ⟨found, [], none, true⟩ found [] items
  rw [List.append_nil] at taken
  rw [decode, reads]
  change Except.bind (reader ⟨found, [], none, true⟩ found) _ = .ok value
  rw [taken]
  rfl

end BehaviorDiff.Yaml
