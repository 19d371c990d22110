import Mathlib.Data.List.TakeWhile
import BehaviorDiff.Markup.Attribute
import BehaviorDiff.Markup.Piece
import BehaviorDiff.Tree.Node

set_option autoImplicit false

/-!
The content of a tag as it is written: the name, then every attribute behind a blank, with its value
escaped between double quotes. If the names are words, the content is read back as it was, and the
search for the end of a tag runs over it, whatever the values hold.
-/

namespace BehaviorDiff.Markup

theorem splitAtFirst_append_cons {stop : Char → Bool} {text : List Char} {c : Char}
    (free : ∀ d ∈ text, stop d = false) (found : stop c = true) (rest : List Char) :
    splitAtFirst stop (text ++ c :: rest) = (text, c :: rest) := by
  have passes : ∀ d ∈ text, (!stop d) = true := fun d hd => by rw [free d hd, Bool.not_false]
  rw [splitAtFirst, List.takeWhile_append_of_pos passes, List.dropWhile_append_of_pos passes]
  simp [found]

theorem splitAtFirst_of_free {stop : Char → Bool} {text : List Char}
    (free : ∀ d ∈ text, stop d = false) : splitAtFirst stop text = (text, []) := by
  have passes : ∀ d ∈ text, (!stop d) = true := fun d hd => by rw [free d hd, Bool.not_false]
  rw [splitAtFirst, List.takeWhile_eq_self_iff.2 passes, List.dropWhile_eq_nil_iff.2 passes]

section References

/-- A character is written as itself, or as a reference by its name. -/
theorem escapeCharacter_cases (c : Char) :
    (escapeCharacter c = [c] ∧ c ≠ '&' ∧ c ≠ '"') ∨
      ∃ name, (name, c) ∈ namedCharacters ∧
        escapeCharacter c = '&' :: (name.toList ++ [';']) := by
  unfold escapeCharacter
  split
  case h_1 => exact .inr ⟨"lt", by decide, rfl⟩
  case h_2 => exact .inr ⟨"gt", by decide, rfl⟩
  case h_3 => exact .inr ⟨"amp", by decide, rfl⟩
  case h_4 => exact .inr ⟨"apos", by decide, rfl⟩
  case h_5 => exact .inr ⟨"quot", by decide, rfl⟩
  case h_6 ampersand _ quote => exact .inl ⟨rfl, ampersand, quote⟩

theorem resolveFrom_named {length : Nat} {name : String} {c : Char} {after value : List Char}
    (named : (name, c) ∈ namedCharacters) (h : resolveFrom length after = .ok value) :
    resolveFrom length ('&' :: (name.toList ++ ';' :: after)) = .ok (c :: value) := by
  have plain : ∀ entry ∈ namedCharacters,
      entry.1.toList.all (fun d => !(decide (d = '&') || decide (d = ';'))) = true := by decide
  have free : ∀ d ∈ name.toList, (decide (d = '&') || decide (d = ';')) = false :=
    fun d hd => by simpa using List.all_eq_true.1 (plain _ named) d hd
  have found : (decide (';' = '&') || decide (';' = ';')) = true := by decide
  have ends := splitAtFirst_append_cons free found after
  have reads (start stop : Nat) : referencedCharacter start stop name.toList = .ok c := by
    simp only [namedCharacters, List.mem_cons, List.not_mem_nil, or_false, Prod.mk.injEq] at named
    rcases named with ⟨rfl, rfl⟩ | ⟨rfl, rfl⟩ | ⟨rfl, rfl⟩ | ⟨rfl, rfl⟩ | ⟨rfl, rfl⟩ <;> rfl
  rw [resolveFrom]
  split
  · next text after' split =>
    cases ends.symm.trans split
    rw [reads, h]
    rfl
  · next missed => exact absurd ends (missed _ _)

theorem resolveFrom_escapeCharacter {length : Nat} (c : Char) {after value : List Char}
    (h : resolveFrom length after = .ok value) :
    resolveFrom length (escapeCharacter c ++ after) = .ok (c :: value) := by
  rcases escapeCharacter_cases c with ⟨itself, ampersand, -⟩ | ⟨name, named, reference⟩
  · rw [itself, List.singleton_append, resolveFrom, h]
    · rfl
    · exact ampersand
  · rw [reference, List.cons_append, List.append_assoc]
    exact resolveFrom_named named h

theorem resolve_escape (value : List Char) : resolve (escape value) = .ok value := by
  have resolved (length : Nat) : resolveFrom length (escape value) = .ok value := by
    induction value with
    | nil => rw [escape, List.flatMap_nil, resolveFrom]
    | cons c rest ih => exact resolveFrom_escapeCharacter c ih
  exact resolved _

theorem quote_notMem_escape (value : List Char) : '"' ∉ escape value := by
  have unquoted : ∀ entry ∈ namedCharacters, '"' ∉ '&' :: (entry.1.toList ++ [';']) := by decide
  intro hm
  obtain ⟨c, -, hc⟩ := List.mem_flatMap.1 hm
  rcases escapeCharacter_cases c with ⟨itself, -, quote⟩ | ⟨name, named, reference⟩
  · rw [itself, List.mem_singleton] at hc
    exact quote hc.symm
  · rw [reference] at hc
    exact unquoted _ named hc

end References

section Words

/-- Whether a character may stand in a word. -/
def isWordCharacter (c : Char) : Bool := c.isAlphanum || c = '_'

/-- A word is a letter with letters, digits and underscores behind it. -/
def IsWord : List Char → Prop
  | [] => False
  | first :: rest => first.isAlpha = true ∧ rest.all isWordCharacter = true

instance : DecidablePred IsWord
  | [] => inferInstanceAs (Decidable False)
  | first :: rest =>
    inferInstanceAs (Decidable (first.isAlpha = true ∧ rest.all isWordCharacter = true))

theorem IsWord.character {word : List Char} (h : IsWord word) {c : Char} (hc : c ∈ word) :
    isWordCharacter c = true := by
  cases word with
  | nil => exact h.elim
  | cons first rest =>
    rcases List.mem_cons.1 hc with rfl | later
    · rw [isWordCharacter, Char.isAlphanum, h.1, Bool.true_or, Bool.true_or]
    · exact List.all_eq_true.1 h.2 c later

theorem IsWord.exists_cons {word : List Char} (h : IsWord word) :
    ∃ first rest, word = first :: rest := by
  cases word with
  | nil => exact h.elim
  | cons first rest => exact ⟨first, rest, rfl⟩

theorem ne_of_isWordCharacter {c d : Char} (hc : isWordCharacter c = true)
    (hd : isWordCharacter d = false) : c ≠ d := by
  rintro rfl
  rw [hc] at hd
  cases hd

theorem isBlank_eq_false {c : Char} (h : isWordCharacter c = true) : isBlank c = false := by
  simp [isBlank, ne_of_isWordCharacter h (d := ' ') (by decide),
    ne_of_isWordCharacter h (d := '\t') (by decide),
    ne_of_isWordCharacter h (d := '\n') (by decide),
    ne_of_isWordCharacter h (d := '\r') (by decide)]

end Words

/-- An attribute as it is written behind the name of a tag. -/
def attributeText (entry : String × String) : List Char :=
  ' ' :: (entry.1.toList ++ '=' :: '"' :: (escape entry.2.toList ++ ['"']))

/-- The content of a tag as it is written. -/
def tagContent (name : String) (attributes : Attributes) : List Char :=
  name.toList ++ attributes.entries.flatMap attributeText

section Attributes
variable (length : Nat) {seen : List (List Char × Nat)}

/-- Reading attributes takes off the first one. -/
theorem readAttributes_first {text rest key afterKey raw after value : List Char} {first : Char}
    (start : skipBlanks text = first :: rest) (split : splitKey first rest = (key, .ok afterKey))
    (fresh : seen.lookup key = none) (quoted : splitValue afterKey = .ok (raw, after))
    (resolved : resolve raw = .ok value) :
    readAttributes length seen text =
      (readAttributes length ((key, length - byteLength (first :: rest)) :: seen) after).map
        ((String.ofList key, String.ofList value) :: ·) := by
  rw [readAttributes]
  split
  · next none =>
    rw [start] at none
    cases none
  · next first' rest' start' =>
    cases start.symm.trans start'
    split
    · next missed => rw [split] at missed; cases missed
    · next key' afterKey' split' =>
      cases split.symm.trans split'
      simp only [fresh]
      split
      · next missed =>
        rw [quoted] at missed
        cases missed
      · next raw' after' quoted' =>
        cases quoted.symm.trans quoted'
        simp only [resolved]
        cases readAttributes length _ after <;> rfl

theorem splitKey_of_isWord {first : Char} {rest value : List Char} (word : IsWord (first :: rest)) :
    splitKey first (rest ++ '=' :: value) = (first :: rest, .ok value) := by
  have free : ∀ c ∈ rest, (decide (c = '=') || isBlank c) = false := by
    intro c hc
    have wordCharacter := word.character (List.mem_cons_of_mem first hc)
    simp [ne_of_isWordCharacter wordCharacter (d := '=') (by decide),
      isBlank_eq_false wordCharacter]
  rw [splitKey, splitAtFirst_append_cons free (by decide) value]
  rfl

theorem splitValue_quoted {value : List Char} (unquoted : '"' ∉ value) (after : List Char) :
    splitValue ('"' :: (value ++ '"' :: after)) = .ok (value, after) := by
  have free : ∀ c ∈ value, decide (c = '"') = false :=
    fun c hc => decide_eq_false fun quote => unquoted (quote ▸ hc)
  have ends := splitAtFirst_append_cons free (show decide ('"' = '"') = true from rfl) after
  have skipped : skipBlanks ('"' :: (value ++ '"' :: after)) = '"' :: (value ++ '"' :: after) := rfl
  simp [splitValue, skipped, ends]

/-- A written attribute is read back, in front of what follows it. -/
theorem exists_readAttributes_attributeText {key : String} (word : IsWord key.toList)
    (fresh : seen.lookup key.toList = none) (value : String) (after : List Char) :
    ∃ position, readAttributes length seen (attributeText (key, value) ++ after) =
      (readAttributes length ((key.toList, position) :: seen) after).map ((key, value) :: ·) := by
  have resolved := resolve_escape value.toList
  have quoted := splitValue_quoted (quote_notMem_escape value.toList) after
  obtain ⟨first, rest, letters⟩ := word.exists_cons
  rw [letters] at word fresh ⊢
  have start : skipBlanks (attributeText (key, value) ++ after) =
      first :: (rest ++ '=' :: '"' :: (escape value.toList ++ '"' :: after)) := by
    have unblank := isBlank_eq_false (word.character List.mem_cons_self)
    simp [attributeText, letters, skipBlanks, show isBlank ' ' = true from rfl, unblank]
  have read := readAttributes_first length start (splitKey_of_isWord word) fresh quoted resolved
  rw [← letters, String.ofList_toList, String.ofList_toList] at read
  rw [← letters]
  exact ⟨_, read⟩

/-- Attributes with different words as keys are read back in order. -/
theorem readAttributes_attributeText {entries : List (String × String)}
    (words : ∀ entry ∈ entries, IsWord entry.1.toList)
    (distinct : (entries.map Prod.fst).Nodup)
    (fresh : ∀ entry ∈ entries, seen.lookup entry.1.toList = none) :
    readAttributes length seen (entries.flatMap attributeText) = .ok entries := by
  induction entries generalizing seen with
  | nil =>
    rw [readAttributes]
    rfl
  | cons entry rest ih =>
    obtain ⟨key, value⟩ := entry
    obtain ⟨word, words⟩ := List.forall_mem_cons.1 words
    obtain ⟨here, later⟩ := List.forall_mem_cons.1 fresh
    obtain ⟨absent, distinct⟩ := List.nodup_cons.1 distinct
    obtain ⟨position, read⟩ :=
      exists_readAttributes_attributeText length word here value (rest.flatMap attributeText)
    -- The keys are words as texts; reading keeps them as rows of characters.
    have fresh : ∀ entry ∈ rest, ((key.toList, position) :: seen).lookup entry.1.toList = none := by
      intro entry he
      have other : entry.1.toList ≠ key.toList := by
        intro same
        have known : entry.1 ∈ rest.map Prod.fst := List.mem_map_of_mem he
        exact absent (String.toList_inj.1 same ▸ known)
      rw [List.lookup_cons, beq_eq_false_iff_ne.2 other, later entry he]
    rw [List.flatMap_cons, read, ih words distinct fresh]
    rfl

theorem splitAtFirst_tagContent {name : String} {attributes : Attributes}
    (word : IsWord name.toList) : splitAtFirst isBlank (tagContent name attributes) =
      (name.toList, attributes.entries.flatMap attributeText) := by
  have free : ∀ c ∈ name.toList, isBlank c = false :=
    fun c hc => isBlank_eq_false (word.character hc)
  rw [tagContent]
  cases attributes.entries with
  | nil =>
    rw [List.flatMap_nil, List.append_nil]
    exact splitAtFirst_of_free free
  | cons entry rest => exact splitAtFirst_append_cons free rfl _

theorem ofContent_tagContent {name : String} {attributes : Attributes} (word : IsWord name.toList)
    (words : ∀ key ∈ attributes.keys, IsWord key.toList) :
    Tag.ofContent (tagContent name attributes) = ⟨name, .ok attributes.entries⟩ := by
  have read := @readAttributes_attributeText (byteLength (tagContent name attributes)) []
    attributes.entries (fun entry he => words entry.1 (List.mem_map_of_mem he)) attributes.nodup
    fun _ _ => rfl
  simp only [Tag.ofContent, splitAtFirst_tagContent word, read, String.ofList_toList]

/-- The content of a tag does not end as that of a single tag does. -/
theorem getLast?_tagContent_ne {name : String} {attributes : Attributes}
    (word : IsWord name.toList) : (tagContent name attributes).getLast? ≠ some '/' := by
  rcases List.eq_nil_or_concat attributes.entries with none | ⟨entries, last, h⟩
  · rw [tagContent, none, List.flatMap_nil, List.append_nil]
    intro slash
    have wordCharacter := word.character (List.mem_of_getLast? slash)
    exact absurd wordCharacter (by decide)
  · have quote : attributeText last =
        ' ' :: (last.1.toList ++ '=' :: '"' :: escape last.2.toList) ++ ['"'] := by
      simp [attributeText]
    rw [tagContent, h, List.concat_eq_append, List.flatMap_append, List.flatMap_singleton, quote,
      ← List.append_assoc, ← List.append_assoc, List.getLast?_concat]
    simp

end Attributes

section Cutting

/-- A text that the search for the end of a tag runs over. -/
def Uncut (text : List Char) : Prop :=
  ∀ after, Piece.cutElement none (text ++ after) =
    (Piece.cutElement none after).map fun cut => (text ++ cut.1, cut.2)

theorem Uncut.append {text text' : List Char} (h : Uncut text) (h' : Uncut text') :
    Uncut (text ++ text') := by
  intro after
  rw [List.append_assoc, h, h', Option.map_map]
  congr 1
  funext cut
  simp

theorem uncut_nil : Uncut [] := fun after => by simp

theorem uncut_flatMap {α : Type} {write : α → List Char} {parts : List α}
    (h : ∀ part ∈ parts, Uncut (write part)) : Uncut (parts.flatMap write) := by
  induction parts with
  | nil => exact uncut_nil
  | cons part rest ih =>
    obtain ⟨first, later⟩ := List.forall_mem_cons.1 h
    exact first.append (ih later)

theorem uncut_cons {c : Char} {text : List Char} (h : Uncut text) (stop : c ≠ '>')
    (double : c ≠ '"') (single : c ≠ '\'') : Uncut (c :: text) := by
  intro after
  rw [List.cons_append, Piece.cutElement, if_neg stop, if_neg (by simp [double, single]), h,
    Option.map_map]
  rfl

theorem cutElement_quoted {value : List Char} (unquoted : '"' ∉ value) (after : List Char) :
    Piece.cutElement (some '"') (value ++ '"' :: after) =
      (Piece.cutElement none after).map fun cut => (value ++ '"' :: cut.1, cut.2) := by
  induction value with
  | nil => rfl
  | cons c rest ih =>
    rw [List.mem_cons, not_or] at unquoted
    rw [List.cons_append, Piece.cutElement, if_neg (Ne.symm unquoted.1), ih unquoted.2,
      Option.map_map]
    rfl

theorem uncut_of_isWord {word : List Char} (h : IsWord word) : Uncut word := by
  -- A rest of a word need not be a word, but all of its characters are still those of one.
  have characters : ∀ c ∈ word, isWordCharacter c = true := fun c => h.character
  clear h
  induction word with
  | nil => exact uncut_nil
  | cons c rest ih =>
    obtain ⟨here, later⟩ := List.forall_mem_cons.1 characters
    exact uncut_cons (ih later) (ne_of_isWordCharacter here (by decide))
      (ne_of_isWordCharacter here (by decide)) (ne_of_isWordCharacter here (by decide))

theorem uncut_attributeText {entry : String × String} (word : IsWord entry.1.toList) :
    Uncut (attributeText entry) := by
  have value : Uncut ('"' :: (escape entry.2.toList ++ ['"'])) := by
    intro after
    have quoted := cutElement_quoted (quote_notMem_escape entry.2.toList) after
    rw [List.cons_append, List.append_assoc, Piece.cutElement, if_neg (by decide),
      if_pos (by decide), List.singleton_append, quoted, Option.map_map]
    simp [Function.comp_def]
  have equals := uncut_cons (c := '=') value (by decide) (by decide) (by decide)
  exact uncut_cons ((uncut_of_isWord word).append equals) (by decide) (by decide) (by decide)

theorem uncut_tagContent {name : String} {attributes : Attributes} (word : IsWord name.toList)
    (words : ∀ key ∈ attributes.keys, IsWord key.toList) : Uncut (tagContent name attributes) :=
  (uncut_of_isWord word).append <| uncut_flatMap fun entry he =>
    uncut_attributeText (words entry.1 (List.mem_map_of_mem he))

end Cutting

end BehaviorDiff.Markup
