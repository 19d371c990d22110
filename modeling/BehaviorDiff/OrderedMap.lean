set_option autoImplicit false

/-!
A finite map that remembers the order in which its keys first came in. Writing to a key that is
there keeps the place of the key and replaces the value; a new key goes to the end. No key occurs
twice, by construction.
-/

namespace BehaviorDiff

section Entries
variable {κ ν : Type} [DecidableEq κ]

/-- Writes one entry into an association list: in place if the key is there, else at the end. -/
def insertEntry (key : κ) (value : ν) : List (κ × ν) → List (κ × ν)
  | [] => [(key, value)]
  | (k, v) :: rest =>
    if k = key then (key, value) :: rest else (k, v) :: insertEntry key value rest

theorem keys_insertEntry (key : κ) (value : ν) (entries : List (κ × ν)) :
    (insertEntry key value entries).map Prod.fst =
      if key ∈ entries.map Prod.fst then entries.map Prod.fst
      else entries.map Prod.fst ++ [key] := by
  induction entries with
  | nil => simp [insertEntry]
  | cons entry rest ih =>
    obtain ⟨k, v⟩ := entry
    by_cases h : k = key
    · simp [insertEntry, h]
    · have h' : ¬ key = k := fun e => h e.symm
      by_cases hm : key ∈ rest.map Prod.fst <;> simp_all [insertEntry]

theorem nodup_keys_insertEntry (key : κ) (value : ν) {entries : List (κ × ν)}
    (nodup : (entries.map Prod.fst).Nodup) :
    ((insertEntry key value entries).map Prod.fst).Nodup := by
  rw [keys_insertEntry]
  split
  · exact nodup
  · next h =>
    refine List.nodup_append.2 ⟨nodup, by simp, ?_⟩
    intro a ha b hb
    simp only [List.mem_singleton] at hb
    subst hb
    exact fun e => h (e ▸ ha)

end Entries

/-- Entries in the order in which their keys first came in, each key once. -/
structure OrderedMap (κ ν : Type) where
  entries : List (κ × ν)
  nodup : (entries.map Prod.fst).Nodup

namespace OrderedMap
variable {κ ν : Type}

theorem ext {a b : OrderedMap κ ν} (h : a.entries = b.entries) : a = b := by
  cases a
  cases b
  cases h
  rfl

instance [DecidableEq κ] [DecidableEq ν] : DecidableEq (OrderedMap κ ν) := fun a b =>
  if h : a.entries = b.entries then isTrue (ext h)
  else isFalse fun e => h (congrArg entries e)

/-- The map without entries. -/
def empty : OrderedMap κ ν := ⟨[], List.nodup_nil⟩

instance : Inhabited (OrderedMap κ ν) := ⟨empty⟩

/-- The keys in order. -/
def keys (m : OrderedMap κ ν) : List κ := m.entries.map Prod.fst

/-- The values in the order of their keys. -/
def values (m : OrderedMap κ ν) : List ν := m.entries.map Prod.snd

/-- The number of entries. -/
def size (m : OrderedMap κ ν) : Nat := m.entries.length

/-- Whether there is no entry. -/
def isEmpty (m : OrderedMap κ ν) : Bool := m.entries.isEmpty

theorem keys_nodup (m : OrderedMap κ ν) : m.keys.Nodup := m.nodup

@[simp] theorem keys_empty : (empty : OrderedMap κ ν).keys = [] := rfl

variable [DecidableEq κ]

/-- The value under a key, if there is one. -/
def get? (m : OrderedMap κ ν) (key : κ) : Option ν := m.entries.lookup key

/-- Whether a key has a value. -/
def contains (m : OrderedMap κ ν) (key : κ) : Bool := (m.get? key).isSome

/-- Writes a value: a known key keeps its place, a new one goes to the end. -/
def insert (m : OrderedMap κ ν) (key : κ) (value : ν) : OrderedMap κ ν :=
  ⟨insertEntry key value m.entries, nodup_keys_insertEntry key value m.nodup⟩

/-- Writes entries one after another into the empty map. -/
def ofList (entries : List (κ × ν)) : OrderedMap κ ν :=
  entries.foldl (fun m entry => m.insert entry.1 entry.2) empty

/-- Equality up to the order of the entries. -/
def sameEntries [DecidableEq ν] (a b : OrderedMap κ ν) : Bool :=
  a.size == b.size && a.entries.all fun entry => b.get? entry.1 == some entry.2

theorem keys_insert (m : OrderedMap κ ν) (key : κ) (value : ν) :
    (m.insert key value).keys = if key ∈ m.keys then m.keys else m.keys ++ [key] :=
  keys_insertEntry key value m.entries

private theorem lookup_cons (key other : κ) (value : ν) (rest : List (κ × ν)) :
    ((key, value) :: rest).lookup other =
      if other = key then some value else rest.lookup other := by
  by_cases h : other = key
  · simp [h]
  · simp [List.lookup_cons, beq_eq_false_iff_ne.2 h, h]

private theorem lookup_insertEntry (key other : κ) (value : ν) (entries : List (κ × ν)) :
    (insertEntry key value entries).lookup other =
      if other = key then some value else entries.lookup other := by
  induction entries with
  | nil => simp [insertEntry, lookup_cons]
  | cons entry rest ih =>
    obtain ⟨k, v⟩ := entry
    by_cases h : k = key
    · by_cases ho : other = key <;> simp [insertEntry, lookup_cons, h, ho]
    · by_cases ho : other = k
      · subst ho
        simp [insertEntry, h]
      · simp [insertEntry, lookup_cons, h, ho, ih]

theorem get?_insert (m : OrderedMap κ ν) (key other : κ) (value : ν) :
    (m.insert key value).get? other = if other = key then some value else m.get? other :=
  lookup_insertEntry key other value m.entries

private theorem keys_foldl_insert (entries : List (κ × ν)) (m : OrderedMap κ ν) :
    (entries.foldl (fun m entry => m.insert entry.1 entry.2) m).keys =
      m.keys ++ ((entries.map Prod.fst).filter (· ∉ m.keys)).eraseDups := by
  induction entries generalizing m with
  | nil => simp
  | cons entry rest ih =>
    obtain ⟨k, v⟩ := entry
    rw [List.foldl_cons, ih, keys_insert, List.map_cons]
    by_cases known : k ∈ m.keys
    · simp [known]
    · have fresh : (rest.map Prod.fst).filter (· ∉ m.keys ++ [k]) =
          ((rest.map Prod.fst).filter (· ∉ m.keys)).filter fun other => !other == k := by
        rw [List.filter_filter]
        refine List.filter_congr fun other _ => ?_
        by_cases h : other = k <;> simp [h]
      simp only [known, if_false, List.filter_cons, not_false_eq_true, decide_true, if_true,
        List.eraseDups_cons, fresh, List.append_assoc, List.singleton_append]

/-- The keys come in the order in which they were first written. -/
theorem keys_ofList (entries : List (κ × ν)) :
    (ofList entries).keys = (entries.map Prod.fst).eraseDups := by
  rw [ofList, keys_foldl_insert, keys_empty, List.nil_append, List.filter_eq_self.2]
  exact fun key _ => decide_eq_true List.not_mem_nil

private theorem get?_foldl_insert (entries : List (κ × ν)) (m : OrderedMap κ ν) (key : κ) :
    (entries.foldl (fun m entry => m.insert entry.1 entry.2) m).get? key =
      (entries.reverse.lookup key).or (m.get? key) := by
  induction entries generalizing m with
  | nil => rfl
  | cons entry rest ih =>
    obtain ⟨k, v⟩ := entry
    rw [List.foldl_cons, ih, get?_insert, List.reverse_cons, List.lookup_append, Option.or_assoc]
    congr 1
    by_cases h : key = k
    · simp [h]
    · simp [h, List.lookup_cons, beq_eq_false_iff_ne.2 h]

/-- Under a key stands the value that was written last. -/
theorem get?_ofList (entries : List (κ × ν)) (key : κ) :
    (ofList entries).get? key = entries.reverse.lookup key := by
  rw [ofList, get?_foldl_insert]
  exact Option.or_none
private theorem isSome_lookup (key : κ) (entries : List (κ × ν)) :
    (entries.lookup key).isSome = true ↔ key ∈ entries.map Prod.fst := by
  induction entries with
  | nil => simp [List.lookup_nil]
  | cons entry rest ih =>
    obtain ⟨k, v⟩ := entry
    by_cases h : key = k
    · simp [h]
    · simp [List.lookup_cons, beq_eq_false_iff_ne.2 h, h, ih]

theorem contains_iff {m : OrderedMap κ ν} {key : κ} : m.contains key = true ↔ key ∈ m.keys :=
  isSome_lookup key m.entries

private theorem mem_of_lookup {key : κ} {value : ν} {entries : List (κ × ν)}
    (nodup : (entries.map Prod.fst).Nodup) :
    entries.lookup key = some value ↔ (key, value) ∈ entries := by
  induction entries with
  | nil => simp
  | cons entry rest ih =>
    obtain ⟨k, v⟩ := entry
    rw [List.map_cons, List.nodup_cons] at nodup
    rw [lookup_cons, List.mem_cons]
    by_cases h : key = k
    · subst h
      have absent : (key, value) ∉ rest := fun hm => nodup.1 (List.mem_map.2 ⟨_, hm, rfl⟩)
      simp [absent, eq_comm]
    · simp [h, ih nodup.2]

/-- The entries are the keys with the values under them. -/
theorem mem_entries_iff {m : OrderedMap κ ν} {key : κ} {value : ν} :
    (key, value) ∈ m.entries ↔ m.get? key = some value :=
  (mem_of_lookup m.nodup).symm

private theorem insertEntry_of_notMem (key : κ) (value : ν) {entries : List (κ × ν)}
    (h : key ∉ entries.map Prod.fst) :
    insertEntry key value entries = entries ++ [(key, value)] := by
  induction entries with
  | nil => rfl
  | cons entry rest ih =>
    obtain ⟨k, v⟩ := entry
    simp only [List.map_cons, List.mem_cons, not_or] at h
    simp [insertEntry, Ne.symm h.1, ih h.2]

private theorem entries_foldl_insert (entries : List (κ × ν)) (m : OrderedMap κ ν)
    (nodup : ((m.entries ++ entries).map Prod.fst).Nodup) :
    (entries.foldl (fun m entry => m.insert entry.1 entry.2) m).entries = m.entries ++ entries := by
  induction entries generalizing m with
  | nil => simp
  | cons entry rest ih =>
    obtain ⟨k, v⟩ := entry
    have fresh : k ∉ m.entries.map Prod.fst := by
      intro h
      rw [List.map_append, List.nodup_append] at nodup
      exact nodup.2.2 k h k (by simp) rfl
    have step : (m.insert k v).entries = m.entries ++ [(k, v)] := insertEntry_of_notMem k v fresh
    rw [List.foldl_cons, ih _ (by simpa [step] using nodup), step]
    simp

/-- Writing entries with different keys keeps them as they are. -/
theorem entries_ofList {entries : List (κ × ν)} (nodup : (entries.map Prod.fst).Nodup) :
    (ofList entries).entries = entries := by
  simpa [ofList, empty] using entries_foldl_insert entries empty (by simpa [empty] using nodup)

end OrderedMap

end BehaviorDiff
