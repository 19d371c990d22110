import BehaviorDiff.Proofs.Text.JsonReader
import BehaviorDiff.Proofs.Timestamp
import BehaviorDiff.Report.Json

set_option autoImplicit false

/-!
A report can be read back from its JSON text. Every part is decoded from the value of its part of
the text, and a field that is left out stands for nothing or for the empty list or map. So two
reports that differ anywhere have different texts.
-/

namespace BehaviorDiff

namespace Json.Value

/-- The text that a value is. -/
def text? : Value → Option String
  | .text value => some value
  | _ => none

/-- The natural number that a value is. -/
def natural? : Value → Option Nat
  | .number mantissa exponent => if 0 ≤ mantissa ∧ exponent = 0 then some mantissa.toNat else none
  | _ => none

/-- The items of a list, each decoded. -/
def listOf? {α : Type} (decode : Value → Option α) : Value → Option (List α)
  | .list items => items.mapM decode
  | _ => none

/-- The fields of an object as a map in their order, each decoded. -/
def mapOf? {α : Type} (decode : Value → Option α) : Value → Option (OrderedMap String α)
  | .object fields =>
    (fields.mapM fun field => (decode field.2).map fun value => (field.1, value)).map .ofList
  | _ => none

/-- The first field of a name. -/
def field? (value : Value) (name : String) : Option Value :=
  match value with
  | .object fields => fields.lookup name
  | _ => none

/-- A field that must be there. -/
def required {α : Type} (value : Value) (name : String) (decode : Value → Option α) : Option α :=
  (value.field? name).bind decode

/-- A field that stands for a default if it is left out. -/
def orElse {α : Type} (value : Value) (name : String) (default : α) (decode : Value → Option α) :
    Option α :=
  (value.field? name).elim (some default) decode

end Json.Value

open Json (Value valueOf itemsOf fieldsOf)

section Recovery
variable {α : Type}

/-- Decoding gives back what was written. -/
def Recovers (decode : Value → Option α) (json : α → JsonValue) : Prop :=
  ∀ a, decode (valueOf (json a)) = some a

theorem itemsOf_eq_map (items : List JsonValue) : itemsOf items = items.map valueOf := by
  induction items with
  | nil => rw [itemsOf, List.map_nil]
  | cons item items ih => rw [itemsOf, ih, List.map_cons]

theorem fieldsOf_eq_map (fields : List (String × JsonValue)) :
    fieldsOf fields = fields.map fun field => (field.1, valueOf field.2) := by
  induction fields with
  | nil => rw [fieldsOf, List.map_nil]
  | cons field fields ih => rw [fieldsOf, ih, List.map_cons]

theorem mapM_eq_some {β : Type} {f : α → Option β} {g : β → α} (h : ∀ b, f (g b) = some b)
    (items : List β) : (items.map g).mapM f = some items := by
  induction items with
  | nil => rfl
  | cons item items ih => simp [h, ih]

theorem recovers_text : Recovers Value.text? .text := by
  intro value
  rw [valueOf]
  rfl

theorem recovers_number : Recovers Value.natural? .number := by
  intro value
  rw [valueOf, Value.natural?, if_pos ⟨Int.natCast_nonneg value, rfl⟩]
  rfl

theorem Recovers.list {decode : Value → Option α} {json : α → JsonValue}
    (h : Recovers decode json) :
    Recovers (Value.listOf? decode) fun items => .list (items.map json) := by
  intro items
  rw [valueOf, itemsOf_eq_map, List.map_map]
  exact mapM_eq_some h items

theorem Recovers.map {decode : Value → Option α} {json : α → JsonValue}
    (h : Recovers decode json) :
    Recovers (Value.mapOf? decode) fun entries : OrderedMap String α =>
      .object (entries.entries.map fun entry => (entry.1, json entry.2)) := by
  intro entries
  have again : OrderedMap.ofList entries.entries = entries :=
    OrderedMap.ext (OrderedMap.entries_ofList entries.nodup)
  rw [valueOf, fieldsOf_eq_map, List.map_map, Value.mapOf?, mapM_eq_some (fun entry => ?_)]
  · exact congrArg some again
  · exact congrArg (Option.map fun value => (entry.1, value)) (h entry.2)

variable (fields : List (String × JsonValue)) (name : String)

theorem field?_object :
    (valueOf (.object fields)).field? name = (fields.lookup name).map valueOf := by
  rw [valueOf, fieldsOf_eq_map, Value.field?]
  induction fields with
  | nil => rfl
  | cons field fields ih =>
    rw [List.map_cons, List.lookup_cons, List.lookup_cons]
    cases name == field.1
    · exact ih
    · rfl

variable {fields name} {decode : Value → Option α} {json : α → JsonValue}

theorem required_object (h : Recovers decode json) {a : α}
    (written : fields.lookup name = some (json a)) :
    (valueOf (.object fields)).required name decode = some a := by
  rw [Value.required, field?_object, written]
  exact h a

theorem orElse_optional (h : Recovers decode json) {a? : Option α}
    (written : fields.lookup name = a?.map json) :
    (valueOf (.object fields)).orElse name none (fun value => (decode value).map some) =
      some a? := by
  rw [Value.orElse, field?_object, written]
  cases a? with
  | none => rfl
  | some a => exact congrArg (Option.map some) (h a)

theorem orElse_map (h : Recovers decode json) {entries : OrderedMap String α}
    (written : fields.lookup name = if entries.isEmpty then none
      else some (.object (entries.entries.map fun entry => (entry.1, json entry.2)))) :
    (valueOf (.object fields)).orElse name .empty (Value.mapOf? decode) = some entries := by
  rw [Value.orElse, field?_object, written]
  cases missing : entries.isEmpty with
  | true => exact congrArg some (OrderedMap.ext (List.isEmpty_iff.1 missing).symm)
  | false => exact h.map entries

theorem orElse_list (h : Recovers decode json) {items : List α}
    (written : fields.lookup name = if items.isEmpty then none
      else some (.list (items.map json))) :
    (valueOf (.object fields)).orElse name [] (Value.listOf? decode) = some items := by
  rw [Value.orElse, field?_object, written]
  cases missing : items.isEmpty with
  | true => exact congrArg some (List.isEmpty_iff.1 missing).symm
  | false => exact h.list items

end Recovery

section Fields
variable {α : Type} (name key : String) (toJson : α → JsonValue)

@[simp] theorem lookup_field (json : JsonValue) (fields : List (String × JsonValue)) :
    ((name, json) :: fields).lookup key = if key = name then some json else fields.lookup key := by
  by_cases h : key = name <;> simp [List.lookup_cons, h, beq_eq_false_iff_ne.2]

@[simp] theorem lookup_optionalField (value? : Option α) :
    (optionalField name toJson value?).lookup key =
      if key = name then value?.map toJson else none := by
  cases value? <;> by_cases h : key = name <;>
    simp [optionalField, List.lookup_cons, h, beq_eq_false_iff_ne.2]

@[simp] theorem lookup_listField (items : List α) :
    (listField name toJson items).lookup key =
      if key = name then if items.isEmpty then none else some (.list (items.map toJson))
      else none := by
  rw [listField]
  cases items.isEmpty <;> by_cases h : key = name <;>
    simp [List.lookup_cons, h, beq_eq_false_iff_ne.2]

@[simp] theorem lookup_mapField (entries : OrderedMap String α) :
    (mapField name toJson entries).lookup key =
      if key = name then
        if entries.isEmpty then none
        else some (.object (entries.entries.map fun entry => (entry.1, toJson entry.2)))
      else none := by
  rw [mapField]
  cases entries.isEmpty <;> by_cases h : key = name <;>
    simp [List.lookup_cons, h, beq_eq_false_iff_ne.2]

end Fields

def Delta.ofValue? (value : Value) : Option (Delta String) := do
  return ⟨← value.required "old" Value.text?, ← value.required "new" Value.text?⟩

theorem required_sides (old new : String) :
    (valueOf (.object [("old", .text old), ("new", .text new)])).required "old" Value.text? =
        some old ∧
      (valueOf (.object [("old", .text old), ("new", .text new)])).required "new" Value.text? =
        some new :=
  ⟨required_object recovers_text (by simp), required_object recovers_text (by simp)⟩

theorem recovers_delta : Recovers Delta.ofValue? Delta.json := by
  intro delta
  obtain ⟨old, new⟩ := required_sides delta.old delta.new
  simp [Delta.ofValue?, Delta.json, old, new]

def Summary.ofValue? (value : Value) : Option Summary := do
  return {
    added := ← value.required "added" Value.natural?
    removed := ← value.required "removed" Value.natural?
    modified := ← value.required "modified" Value.natural?
    moved := ← value.required "moved" Value.natural?
    unchanged := ← value.required "unchanged" Value.natural? }

theorem recovers_summary : Recovers Summary.ofValue? Summary.json := by
  intro summary
  have added : (valueOf summary.json).required "added" Value.natural? = some summary.added :=
    required_object recovers_number (by simp)
  have removed : (valueOf summary.json).required "removed" Value.natural? = some summary.removed :=
    required_object recovers_number (by simp)
  have modified : (valueOf summary.json).required "modified" Value.natural? =
      some summary.modified :=
    required_object recovers_number (by simp)
  have moved : (valueOf summary.json).required "moved" Value.natural? = some summary.moved :=
    required_object recovers_number (by simp)
  have unchanged : (valueOf summary.json).required "unchanged" Value.natural? =
      some summary.unchanged :=
    required_object recovers_number (by simp)
  simp [Summary.ofValue?, added, removed, modified, moved, unchanged]

def ChangeKind.ofValue? (value : Value) : Option ChangeKind := value.text?.bind ofLabel?

def NodeKind.ofValue? (value : Value) : Option NodeKind := value.text?.bind ofLabel?

def ChangeRecord.ofValue? (value : Value) : Option ChangeRecord := do
  return {
    kind := ← value.required "kind" ChangeKind.ofValue?
    oldPath := ← value.orElse "old_path" none fun path => path.text?.map some
    newPath := ← value.orElse "new_path" none fun path => path.text?.map some
    tag := ← value.required "tag" Value.text?
    nodeKind := ← value.required "node_kind" NodeKind.ofValue?
    identity := ← value.orElse "identity" .empty (Value.mapOf? Value.text?)
    tagDelta := ← value.orElse "tag_delta" none fun delta => (Delta.ofValue? delta).map some
    kindDelta := ← value.orElse "kind_delta" none fun delta => (Delta.ofValue? delta).map some
    attributeDeltas := ← value.orElse "attribute_deltas" .empty (Value.mapOf? Delta.ofValue?) }

theorem recovers_kind : Recovers ChangeKind.ofValue? fun kind => .text kind.label := by
  intro kind
  rw [ChangeKind.ofValue?, recovers_text kind.label]
  exact kind.ofLabel?_label

theorem recovers_nodeKind : Recovers NodeKind.ofValue? fun kind => .text kind.label := by
  intro kind
  rw [NodeKind.ofValue?, recovers_text kind.label]
  exact kind.ofLabel?_label

theorem recovers_record : Recovers ChangeRecord.ofValue? ChangeRecord.json := by
  intro record
  obtain ⟨value, same⟩ : ∃ value, value = valueOf record.json := ⟨_, rfl⟩
  have kind : value.required "kind" ChangeKind.ofValue? = some record.kind :=
    same ▸ required_object recovers_kind rfl
  have oldPath : value.orElse "old_path" none (fun path => path.text?.map some) =
      some record.oldPath :=
    same ▸ orElse_optional recovers_text (by simp [List.lookup_append])
  have newPath : value.orElse "new_path" none (fun path => path.text?.map some) =
      some record.newPath :=
    same ▸ orElse_optional recovers_text (by simp [List.lookup_append])
  have tag : value.required "tag" Value.text? = some record.tag :=
    same ▸ required_object recovers_text (by simp [List.lookup_append])
  have nodeKind : value.required "node_kind" NodeKind.ofValue? = some record.nodeKind :=
    same ▸ required_object recovers_nodeKind (by simp [List.lookup_append])
  have identity : value.orElse "identity" .empty (Value.mapOf? Value.text?) =
      some record.identity :=
    same ▸ orElse_map recovers_text (by simp [List.lookup_append])
  have tagDelta : value.orElse "tag_delta" none (fun delta => (Delta.ofValue? delta).map some) =
      some record.tagDelta :=
    same ▸ orElse_optional recovers_delta (by simp [List.lookup_append])
  have kindDelta : value.orElse "kind_delta" none (fun delta => (Delta.ofValue? delta).map some) =
      some record.kindDelta :=
    same ▸ orElse_optional recovers_delta (by simp [List.lookup_append])
  have attributeDeltas : value.orElse "attribute_deltas" .empty (Value.mapOf? Delta.ofValue?) =
      some record.attributeDeltas :=
    same ▸ orElse_map recovers_delta (by simp [List.lookup_append])
  rw [← same]
  simp [ChangeRecord.ofValue?, kind, oldPath, newPath, tag, nodeKind, identity, tagDelta, kindDelta,
    attributeDeltas]

def TreeReport.ofValue? (value : Value) : Option TreeReport := do
  return {
    name := ← value.required "name" Value.text?
    summary := ← value.required "summary" Summary.ofValue?
    changes := ← value.required "changes" (Value.listOf? ChangeRecord.ofValue?) }

theorem recovers_tree : Recovers TreeReport.ofValue? TreeReport.json := by
  intro tree
  have name : (valueOf tree.json).required "name" Value.text? = some tree.name :=
    required_object recovers_text (by simp)
  have summary : (valueOf tree.json).required "summary" Summary.ofValue? = some tree.summary :=
    required_object recovers_summary (by simp)
  have changes : (valueOf tree.json).required "changes" (Value.listOf? ChangeRecord.ofValue?) =
      some tree.changes :=
    required_object recovers_record.list (by simp)
  simp [TreeReport.ofValue?, name, summary, changes]

def ReferenceRecord.ofValue? (value : Value) : Option ReferenceRecord := do
  return {
    kind := ← value.required "kind" ChangeKind.ofValue?
    id := ← value.required "id" Value.text?
    attributeDeltas := ← value.orElse "attribute_deltas" .empty (Value.mapOf? Delta.ofValue?) }

theorem recovers_reference : Recovers ReferenceRecord.ofValue? ReferenceRecord.json := by
  intro record
  have kind : (valueOf record.json).required "kind" ChangeKind.ofValue? = some record.kind :=
    required_object recovers_kind (by simp)
  have id : (valueOf record.json).required "id" Value.text? = some record.id :=
    required_object recovers_text (by simp)
  have attributeDeltas : (valueOf record.json).orElse "attribute_deltas" .empty
      (Value.mapOf? Delta.ofValue?) = some record.attributeDeltas :=
    orElse_map recovers_delta (by simp)
  simp [ReferenceRecord.ofValue?, kind, id, attributeDeltas]

def Sources.ofValue? (value : Value) : Option Sources := do
  return ⟨← value.required "old" Value.text?, ← value.required "new" Value.text?⟩

def Timestamp.ofValue? (value : Value) : Option Timestamp := value.text?.bind ofText?

theorem recovers_timestamp : Recovers Timestamp.ofValue? fun instant => .text instant.text := by
  intro instant
  rw [Timestamp.ofValue?, recovers_text instant.text, Option.bind_some, instant.ofText?_text]

/-- The report that a value is. -/
def Report.ofValue? (value : Value) : Option Report := do
  return {
    sources := ← value.required "sources" Sources.ofValue?
    generatedAt := ← value.required "generated_at" Timestamp.ofValue?
    trees := ← value.required "trees" (Value.listOf? TreeReport.ofValue?)
    addedTrees := ← value.orElse "added_trees" [] (Value.listOf? Value.text?)
    removedTrees := ← value.orElse "removed_trees" [] (Value.listOf? Value.text?)
    references := ← value.orElse "subtree_refs" [] (Value.listOf? ReferenceRecord.ofValue?) }

theorem recovers_sources : Recovers Sources.ofValue? fun sources =>
    .object [("old", .text sources.old), ("new", .text sources.new)] := by
  intro sources
  obtain ⟨old, new⟩ := required_sides sources.old sources.new
  simp [Sources.ofValue?, old, new]

theorem recovers_report : Recovers Report.ofValue? Report.json := by
  intro report
  have sources : (valueOf report.json).required "sources" Sources.ofValue? =
      some report.sources :=
    required_object recovers_sources (by simp)
  have generatedAt : (valueOf report.json).required "generated_at" Timestamp.ofValue? =
      some report.generatedAt :=
    required_object recovers_timestamp (by simp)
  have trees : (valueOf report.json).required "trees" (Value.listOf? TreeReport.ofValue?) =
      some report.trees :=
    required_object recovers_tree.list (by simp)
  have addedTrees : (valueOf report.json).orElse "added_trees" [] (Value.listOf? Value.text?) =
      some report.addedTrees :=
    orElse_list recovers_text (by simp [List.lookup_append])
  have removedTrees : (valueOf report.json).orElse "removed_trees" [] (Value.listOf? Value.text?) =
      some report.removedTrees :=
    orElse_list recovers_text (by simp [List.lookup_append])
  have references : (valueOf report.json).orElse "subtree_refs" []
      (Value.listOf? ReferenceRecord.ofValue?) = some report.references :=
    orElse_list recovers_reference (by simp [List.lookup_append])
  simp [Report.ofValue?, sources, generatedAt, trees, addedTrees, removedTrees, references]

/-- The text of a report is a JSON text, and the report can be read back from it; so no two reports
have one text. -/
theorem jsonText_lossless :
    (∀ report : Report, ∃ value, Json.read report.jsonText = some value ∧
      Report.ofValue? value = some report) ∧
    Function.Injective Report.jsonText := by
  have recovered (report : Report) : ∃ value, Json.read report.jsonText = some value ∧
      Report.ofValue? value = some report :=
    ⟨valueOf report.json, Json.read_pretty report.json 0, recovers_report report⟩
  refine ⟨recovered, fun report other same => ?_⟩
  obtain ⟨value, read, decoded⟩ := recovered report
  obtain ⟨value', read', decoded'⟩ := recovered other
  rw [same, read', Option.some.injEq] at read
  rw [read, decoded] at decoded'
  exact Option.some.inj decoded'

end BehaviorDiff
