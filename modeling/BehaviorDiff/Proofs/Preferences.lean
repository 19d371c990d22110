import BehaviorDiff.Preferences
import BehaviorDiff.Proofs.Yaml.WrittenItems

set_option autoImplicit false

/-!
Preferences that are written to a file are read back from it. The file has every field, so no
default stands in for one, and nothing can be wrong with it but what is wrong with the preferences.
-/

namespace BehaviorDiff.Preferences

open Yaml Yaml.ItemReader

/-- The fields of a file that preferences are written to. -/
def writtenFields (preferences : Preferences) : List (String × FieldValue) :=
  [("default_tree", .text preferences.defaultTree), ("hints", .texts preferences.hints),
    ("ignore_attributes", .texts preferences.ignoredAttributes),
    ("output_format", .text preferences.outputFormat.label),
    ("show_unchanged", .boolean preferences.showUnchanged)]

theorem toYaml_eq (preferences : Preferences) :
    preferences.toYaml = String.ofList (writtenMapping preferences.writtenFields) := by
  simp [toYaml, writtenMapping, writtenFields, FieldValue.written]

theorem fieldName_of_mem_writtenFields (preferences : Preferences) :
    ∀ field ∈ preferences.writtenFields, Scanner.FieldName field.1.toList := by
  simp only [writtenFields, List.forall_mem_cons]
  refine ⟨?_, ?_, ?_, ?_, ?_, List.forall_mem_nil _⟩ <;>
    exact ⟨by decide, by decide, by decide, by decide⟩

/-- A field that has not been there before is taken. -/
theorem takes_takeOnce {α : Type} {reader : ItemReader α} {items : List Item} {value : α}
    (name : String) (takes : Takes reader items value) (f : Option α → Fields) :
    Takes (takeOnce name none reader >>= fun value => pure (f value)) items (f (some value)) := by
  intro document placed rest items_eq
  have taken := takes document placed rest items_eq
  change ((reader document (placed ++ rest)).bind _).bind _ = _
  rw [taken]
  rfl

/-- The written fields are taken one after the other. -/
theorem takes_writtenFields (preferences : Preferences) :
    Takes (record "struct Config" takeField ⟨none, none, none, none, none⟩)
      (.mappingStart none :: mappingItems preferences.writtenFields ++ [.mappingEnd])
      ⟨preferences.defaultTree, preferences.hints, preferences.ignoredAttributes,
        preferences.outputFormat, preferences.showUnchanged⟩ := by
  have items_eq : mappingItems preferences.writtenFields ++ [.mappingEnd] =
      .scalar none .plain "default_tree" :: ((FieldValue.text preferences.defaultTree).items ++
      .scalar none .plain "hints" :: ((FieldValue.texts preferences.hints).items ++
      .scalar none .plain "ignore_attributes" ::
        ((FieldValue.texts preferences.ignoredAttributes).items ++
      .scalar none .plain "output_format" ::
        ((FieldValue.text preferences.outputFormat.label).items ++
      .scalar none .plain "show_unchanged" ::
        ((FieldValue.boolean preferences.showUnchanged).items ++ [.mappingEnd]))))) := by
    simp [mappingItems, writtenFields]
  rw [List.cons_append, items_eq]
  refine takes_record "struct Config" fun rounds enough => ?_
  -- a round for each of the five fields, and one for the end
  obtain ⟨rounds, rfl⟩ : ∃ more, rounds = more + 6 := by
    refine ⟨rounds - 6, ?_⟩
    simp [FieldValue.items] at enough
    omega
  have format : OutputFormat.names.lookup preferences.outputFormat.label =
      some preferences.outputFormat := by
    cases preferences.outputFormat <;> rfl
  refine takes_fields_cons (takes_takeOnce "default_tree" (takes_text "a string" _ none _ _) _) ?_
  refine takes_fields_cons (takes_takeOnce "hints" (takes_texts _ _) _) ?_
  refine takes_fields_cons (takes_takeOnce "ignore_attributes" (takes_texts _ _) _) ?_
  refine takes_fields_cons (takes_takeOnce "output_format" (takes_choice format _ _) _) ?_
  refine takes_fields_cons (takes_takeOnce "show_unchanged" (takes_boolean _ _) _) ?_
  exact takes_fields_end _ _ _

theorem isBlank_toYaml (preferences : Preferences) : isBlank preferences.toYaml = false := by
  have begins : preferences.toYaml.toList = 'd' :: preferences.toYaml.toList.tail := by
    rw [toYaml_eq, String.toList_ofList]
    rfl
  have noSpace : Unicode.isWhiteSpace 'd' = false := by decide
  rw [isBlank, begins, List.all_cons, noSpace, Bool.false_and]

/-- Preferences that are written to a file are read back from it as they are, unless they cannot be
used: then reading fails with the same error. -/
theorem ofYaml_toYaml (preferences : Preferences) :
    ofYaml preferences.toYaml = preferences.validate.map fun _ => preferences := by
  have filled : preferences.writtenFields ≠ [] := List.cons_ne_nil _ _
  have decoded := decode_mapping filled preferences.fieldName_of_mem_writtenFields
    preferences.takes_writtenFields
  rw [ofYaml, isBlank_toYaml, toYaml_eq, decoded]
  change (preferences.validate >>= fun _ => pure preferences) = _
  cases preferences.validate <;> rfl

end BehaviorDiff.Preferences
