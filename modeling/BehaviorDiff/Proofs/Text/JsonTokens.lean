import BehaviorDiff.Text.Json
import BehaviorDiff.Unicode.CodeRanges

set_option autoImplicit false

/-!
The tokens of a JSON text, as the standard has them: punctuation, quoted texts, and words, between
which blanks may stand. A scanner takes one character after another. What it makes of a written value
does not depend on what comes before or behind.
-/

namespace BehaviorDiff.Json

/-- The parts of a JSON text. A word is a number or one of the three literal names. -/
inductive Token where
  | openList
  | closeList
  | openObject
  | closeObject
  | comma
  | colon
  | text (value : String)
  | word (characters : List Char)
  deriving DecidableEq

/-- A part of a quoted text: a character, or a code unit that is written by number. -/
inductive Part where
  | character (c : Char)
  | unit (number : Nat)

/-- The characters of a quoted text. A pair of surrogates stands for one character, and a surrogate
without its partner for none. -/
def charactersOf? : List Part → Option (List Char)
  | [] => some []
  | .character c :: rest => (charactersOf? rest).map (c :: ·)
  | .unit number :: rest =>
    if number < 0xd800 ∨ 0xe000 ≤ number then (charactersOf? rest).map (Char.ofNat number :: ·)
    else
      match rest with
      | .unit low :: rest =>
        if number < 0xdc00 ∧ 0xdc00 ≤ low ∧ low < 0xe000 then
          (charactersOf? rest).map
            (Char.ofNat (0x10000 + (number - 0xd800) * 0x400 + (low - 0xdc00)) :: ·)
        else none
      | _ => none

/-- The character that a letter behind a backslash stands for. -/
def namedEscape? : Char → Option Char
  | '"' => some '"'
  | '\\' => some '\\'
  | '/' => some '/'
  | 'b' => some '\x08'
  | 'f' => some '\x0c'
  | 'n' => some '\n'
  | 'r' => some '\r'
  | 't' => some '\t'
  | _ => none

/-- The blanks of JSON. -/
def isBlank (c : Char) : Bool := c = ' ' || c = '\t' || c = '\n' || c = '\r'

/-- The characters of numbers and literal names. -/
def isWordCharacter (c : Char) : Bool := c.isAlphanum || c = '+' || c = '-' || c = '.'

/-- The token of a punctuation mark. -/
def punctuation? : Char → Option Token
  | '[' => some .openList
  | ']' => some .closeList
  | '\x7b' => some .openObject
  | '\x7d' => some .closeObject
  | ',' => some .comma
  | ':' => some .colon
  | _ => none

/-- Where a scanner is: in a word that may be empty so far, between quotes, behind a backslash, or
in a code unit of which some digits are read. What has been read stands last first. -/
inductive Mode where
  | outside (word : List Char)
  | quoted (parts : List Part)
  | escaped (parts : List Part)
  | numbered (parts : List Part) (digits number : Nat)

/-- A scanner: the tokens so far, the last one first, and where it is. -/
structure Scanner where
  tokens : List Token
  mode : Mode

namespace Scanner

/-- The tokens with a word that has just ended. -/
def endWord (tokens : List Token) (word : List Char) : List Token :=
  if word.isEmpty then tokens else .word word.reverse :: tokens

/-- Takes a character that is in no word and between no quotes. -/
def stepBetween (tokens : List Token) (c : Char) : Option Scanner :=
  if isBlank c then some ⟨tokens, .outside []⟩
  else if c = '"' then some ⟨tokens, .quoted []⟩
  else (punctuation? c).map fun token => ⟨token :: tokens, .outside []⟩

/-- Takes one character. -/
def step (scanner : Scanner) (c : Char) : Option Scanner :=
  match scanner.mode with
  | .outside word =>
    if isWordCharacter c then some ⟨scanner.tokens, .outside (c :: word)⟩
    else stepBetween (endWord scanner.tokens word) c
  | .quoted parts =>
    if c = '"' then
      (charactersOf? parts.reverse).map fun characters =>
        ⟨.text (String.ofList characters) :: scanner.tokens, .outside []⟩
    else if c = '\\' then some ⟨scanner.tokens, .escaped parts⟩
    else if c.toNat < 0x20 then none
    else some ⟨scanner.tokens, .quoted (.character c :: parts)⟩
  | .escaped parts =>
    if c = 'u' then some ⟨scanner.tokens, .numbered parts 0 0⟩
    else (namedEscape? c).map fun named => ⟨scanner.tokens, .quoted (.character named :: parts)⟩
  | .numbered parts digits number =>
    (CodeRanges.hexDigit? c).map fun digit =>
      let number := number * 16 + digit
      if digits = 3 then ⟨scanner.tokens, .quoted (.unit number :: parts)⟩
      else ⟨scanner.tokens, .numbered parts (digits + 1) number⟩

/-- Takes characters in their order. -/
def run (scanner : Scanner) (text : List Char) : Option Scanner := text.foldlM step scanner

/-- The tokens at the end of a text, which ends a word but no quotes. -/
def finish : Scanner → Option (List Token)
  | ⟨tokens, .outside word⟩ => some (endWord tokens word).reverse
  | _ => none

theorem run_append (scanner : Scanner) (front back : List Char) :
    scanner.run (front ++ back) = (scanner.run front).bind (·.run back) :=
  List.foldlM_append

theorem run_cons (scanner : Scanner) (c : Char) (rest : List Char) :
    scanner.run (c :: rest) = (scanner.step c).bind (·.run rest) :=
  List.foldlM_cons

end Scanner

/-- The tokens of a text, if it is made of tokens. -/
def tokensOf? (text : String) : Option (List Token) :=
  (Scanner.run ⟨[], .outside []⟩ text.toList).bind Scanner.finish

example : tokensOf? "[-1.5e3, \"\\ud83d\\ude00\"]" =
    some [.openList, .word "-1.5e3".toList, .comma, .text "😀", .closeList] := by
  decide +kernel

namespace Scanner

section Quoted

/-- The part stands for a character, whatever comes behind it. -/
def StandsFor (part : Part) (c : Char) : Prop :=
  ∀ rest, charactersOf? (part :: rest) = (charactersOf? rest).map (c :: ·)

theorem standsFor_unit {c : Char} (low : c.toNat < 0x20) : StandsFor (.unit c.toNat) c := by
  intro rest
  have plain : c.toNat < 0xd800 ∨ 0xe000 ≤ c.toNat := by omega
  rw [charactersOf?.eq_def]
  simp only [plain, if_true, Char.ofNat_toNat]

theorem toList_controlEscape {c : Char} (low : c.toNat < 0x20) :
    (JsonValue.controlEscape c).toList =
      ['\\', 'u', '0', '0', (c.toNat / 16).digitChar, (c.toNat % 16).digitChar] := by
  have digits : ∀ n < 0x20, List.replicate (4 - (Nat.toDigits 16 n).length) '0' ++
      Nat.toDigits 16 n = ['0', '0', (n / 16).digitChar, (n % 16).digitChar] := by decide
  simp [JsonValue.controlEscape, digits c.toNat low]

theorem hexDigit?_digitChar : ∀ n < 16, CodeRanges.hexDigit? n.digitChar = some n := by decide

/-- The written form of a character gives one part that stands for it. -/
theorem exists_part (c : Char) :
    ∃ part, StandsFor part c ∧ ∀ tokens parts,
      run ⟨tokens, .quoted parts⟩ (JsonValue.escapeCharacter c).toList =
        some ⟨tokens, .quoted (part :: parts)⟩ := by
  unfold JsonValue.escapeCharacter
  split
  case h_8 quote backslash _ _ _ _ _ =>
    split
    case isTrue low =>
      refine ⟨.unit c.toNat, standsFor_unit low, fun tokens parts => ?_⟩
      have high := hexDigit?_digitChar (c.toNat / 16) (by omega)
      have rest := hexDigit?_digitChar (c.toNat % 16) (by omega)
      have zero : CodeRanges.hexDigit? '0' = some 0 := by decide
      have number : (c.toNat / 16) * 16 + c.toNat % 16 = c.toNat := Nat.div_add_mod' _ _
      rw [toList_controlEscape low]
      simp [run, step, zero, high, rest, number]
    case isFalse printed =>
      refine ⟨.character c, fun _ => rfl, fun tokens parts => ?_⟩
      simp [run, step, if_neg quote, if_neg backslash, printed]
  all_goals exact ⟨.character _, fun _ => rfl, fun _ _ => rfl⟩

/-- Characters that are written one after another give parts that stand for them. -/
theorem exists_parts (characters : List Char) :
    ∃ written, charactersOf? written = some characters ∧ ∀ tokens parts,
      run ⟨tokens, .quoted parts⟩
          (characters.flatMap fun c => (JsonValue.escapeCharacter c).toList) =
        some ⟨tokens, .quoted (written.reverse ++ parts)⟩ := by
  induction characters with
  | nil => exact ⟨[], rfl, fun _ _ => rfl⟩
  | cons c rest ih =>
    obtain ⟨part, stands, here⟩ := exists_part c
    obtain ⟨written, same, later⟩ := ih
    refine ⟨part :: written, by rw [stands, same]; rfl, fun tokens parts => ?_⟩
    rw [List.flatMap_cons, run_append, here, Option.bind_some, later, List.reverse_cons,
      List.append_assoc]
    rfl

theorem run_quoted (value : String) (tokens : List Token) (rest : List Char) :
    run ⟨tokens, .outside []⟩ ((JsonValue.quoted value).toList ++ rest) =
      run ⟨.text value :: tokens, .outside []⟩ rest := by
  obtain ⟨written, same, reads⟩ := exists_parts value.toList
  have opened : step ⟨tokens, .outside []⟩ '"' = some ⟨tokens, .quoted []⟩ := rfl
  have closed : step ⟨tokens, .quoted written.reverse⟩ '"' =
      some ⟨.text value :: tokens, .outside []⟩ := by
    simp [step, same]
  have spelled : (JsonValue.quoted value).toList ++ rest =
      '"' :: ((value.toList.flatMap fun c => (JsonValue.escapeCharacter c).toList) ++
        '"' :: rest) := by
    simp [JsonValue.quoted, List.flatMap_map]
  rw [spelled, run_cons, opened, Option.bind_some, run_append, reads, Option.bind_some,
    List.append_nil, run_cons, closed, Option.bind_some]

end Quoted

section Between

/-- What ends a word. -/
def Delimited : List Char → Prop
  | [] => False
  | c :: _ => isWordCharacter c = false

theorem run_word {word : List Char} (inWord : ∀ c ∈ word, isWordCharacter c = true)
    (tokens : List Token) {rest : List Char} (ends : Delimited rest) (nonempty : word ≠ []) :
    run ⟨tokens, .outside []⟩ (word ++ rest) = run ⟨.word word :: tokens, .outside []⟩ rest := by
  have reads (before : List Char) :
      run ⟨tokens, .outside before⟩ word = some ⟨tokens, .outside (word.reverse ++ before)⟩ := by
    clear nonempty
    induction word generalizing before with
    | nil => rfl
    | cons c word ih =>
      obtain ⟨here, later⟩ := List.forall_mem_cons.1 inWord
      have taken : step ⟨tokens, .outside before⟩ c = some ⟨tokens, .outside (c :: before)⟩ := by
        simp [step, here]
      rw [run_cons, taken, Option.bind_some, ih later, List.reverse_cons, List.append_assoc]
      rfl
  cases rest with
  | nil => exact absurd ends id
  | cons c rest =>
    have ended : step ⟨tokens, .outside (word.reverse ++ [])⟩ c =
        step ⟨.word word :: tokens, .outside []⟩ c := by
      simp [step, show isWordCharacter c = false from ends, endWord, nonempty]
    rw [run_append, reads, Option.bind_some, run_cons, ended, ← run_cons]

theorem toList_newline (level : Nat) :
    (JsonValue.newline level).toList = '\n' :: List.replicate (2 * level) ' ' := by
  simp [JsonValue.newline]

theorem run_newline (level : Nat) (tokens : List Token) (rest : List Char) :
    run ⟨tokens, .outside []⟩ ((JsonValue.newline level).toList ++ rest) =
      run ⟨tokens, .outside []⟩ rest := by
  have spaces (n : Nat) :
      run ⟨tokens, .outside []⟩ (List.replicate n ' ') = some ⟨tokens, .outside []⟩ := by
    induction n with
    | zero => rfl
    | succ n ih => rw [List.replicate_succ, run_cons]; exact ih
  rw [toList_newline, List.cons_append, run_cons]
  change run ⟨tokens, .outside []⟩ _ = _
  rw [run_append, spaces, Option.bind_some]

theorem delimited_newline (level : Nat) (rest : List Char) :
    Delimited ((JsonValue.newline level).toList ++ rest) := by
  rw [toList_newline]
  exact (by decide : isWordCharacter '\n' = false)

end Between

end Scanner

mutual

/-- The tokens of a value. -/
def valueTokens : JsonValue → List Token
  | .text value => [.text value]
  | .number value => [.word (Nat.toDigits 10 value)]
  | .list [] => [.openList, .closeList]
  | .list (item :: items) => .openList :: (valueTokens item ++ (itemTokens items ++ [.closeList]))
  | .object [] => [.openObject, .closeObject]
  | .object ((name, value) :: fields) =>
    .openObject :: .text name :: .colon ::
      (valueTokens value ++ (fieldTokens fields ++ [.closeObject]))

/-- The tokens of the items behind the first one. -/
def itemTokens : List JsonValue → List Token
  | [] => []
  | item :: items => .comma :: (valueTokens item ++ itemTokens items)

/-- The tokens of the fields behind the first one. -/
def fieldTokens : List (String × JsonValue) → List Token
  | [] => []
  | (name, value) :: fields =>
    .comma :: .text name :: .colon :: (valueTokens value ++ fieldTokens fields)

end

namespace Scanner

theorem delimited_items (level : Nat) (items : List JsonValue) {rest : List Char}
    (ends : Delimited rest) :
    Delimited ((JsonValue.prettyItems level items).toList ++ rest) := by
  cases items with
  | nil => rw [JsonValue.prettyItems]; exact ends
  | cons item items =>
    rw [JsonValue.prettyItems]
    simp only [String.toList_append, List.append_assoc]
    exact (by decide : isWordCharacter ',' = false)

theorem delimited_fields (level : Nat) (fields : List (String × JsonValue)) {rest : List Char}
    (ends : Delimited rest) :
    Delimited ((JsonValue.prettyFields level fields).toList ++ rest) := by
  cases fields with
  | nil => rw [JsonValue.prettyFields]; exact ends
  | cons field fields =>
    rw [JsonValue.prettyFields]
    simp only [String.toList_append, List.append_assoc]
    exact (by decide : isWordCharacter ',' = false)

theorem run_punctuation {c : Char} {token : Token} (known : punctuation? c = some token)
    (inNoWord : isWordCharacter c = false) (unblank : isBlank c = false) (unquoted : c ≠ '"')
    (before : List Token) (rest : List Char) :
    run ⟨before, .outside []⟩ (c :: rest) = run ⟨token :: before, .outside []⟩ rest := by
  rw [run_cons]
  simp [step, stepBetween, endWord, known, inNoWord, unblank, unquoted]

theorem run_colon (before : List Token) (rest : List Char) :
    run ⟨before, .outside []⟩ (':' :: ' ' :: rest) = run ⟨.colon :: before, .outside []⟩ rest := rfl

theorem isWordCharacter_of_mem_toDigits {n : Nat} {c : Char} (hc : c ∈ Nat.toDigits 10 n) :
    isWordCharacter c = true := by
  have digit := Nat.isDigit_of_mem_toDigits (by decide) (by decide) hc
  simp [isWordCharacter, Char.isAlphanum, digit]

mutual

/-- A scanner takes a written value for its tokens. -/
theorem run_pretty : ∀ (value : JsonValue) (level : Nat) (before : List Token) {rest : List Char},
    Delimited rest → run ⟨before, .outside []⟩ ((value.pretty level).toList ++ rest) =
      run ⟨(valueTokens value).reverse ++ before, .outside []⟩ rest
  | .text value, level, before, rest, _ => by
    rw [JsonValue.pretty]
    exact run_quoted value before rest
  | .number value, level, before, rest, ends => by
    have digits : (toString value).toList = Nat.toDigits 10 value := Nat.toList_repr
    rw [JsonValue.pretty, digits]
    exact run_word (fun _ => isWordCharacter_of_mem_toDigits) before ends Nat.toDigits_ne_nil
  | .list [], level, before, rest, _ => by
    rw [JsonValue.pretty]
    rfl
  | .list (item :: items), level, before, rest, ends => by
    have close : Delimited ((JsonValue.newline level).toList ++ ']' :: rest) :=
      delimited_newline level _
    rw [JsonValue.pretty]
    simp only [String.toList_append, String.reduceToList, List.cons_append, List.nil_append,
      List.append_assoc]
    rw [run_punctuation (c := '[') rfl rfl rfl (by decide), run_newline,
      run_pretty item (level + 1) _ (delimited_items (level + 1) items close),
      run_prettyItems items (level + 1) _ close, run_newline,
      run_punctuation (c := ']') rfl rfl rfl (by decide), valueTokens]
    simp
  | .object [], level, before, rest, _ => by
    rw [JsonValue.pretty]
    rfl
  | .object ((name, value) :: fields), level, before, rest, ends => by
    have close : Delimited ((JsonValue.newline level).toList ++ '\x7d' :: rest) :=
      delimited_newline level _
    rw [JsonValue.pretty]
    simp only [String.toList_append, String.reduceToList, List.cons_append, List.nil_append,
      List.append_assoc]
    rw [run_punctuation (c := '\x7b') rfl rfl rfl (by decide), run_newline, run_quoted, run_colon,
      run_pretty value (level + 1) _ (delimited_fields (level + 1) fields close),
      run_prettyFields fields (level + 1) _ close, run_newline,
      run_punctuation (c := '\x7d') rfl rfl rfl (by decide), valueTokens]
    simp

theorem run_prettyItems : ∀ (items : List JsonValue) (level : Nat) (before : List Token)
    {rest : List Char}, Delimited rest →
      run ⟨before, .outside []⟩ ((JsonValue.prettyItems level items).toList ++ rest) =
        run ⟨(itemTokens items).reverse ++ before, .outside []⟩ rest
  | [], level, before, rest, _ => by
    rw [JsonValue.prettyItems, itemTokens]
    rfl
  | item :: items, level, before, rest, ends => by
    rw [JsonValue.prettyItems]
    simp only [String.toList_append, String.reduceToList, List.cons_append, List.nil_append,
      List.append_assoc]
    rw [run_punctuation (c := ',') rfl rfl rfl (by decide), run_newline,
      run_pretty item level _ (delimited_items level items ends),
      run_prettyItems items level _ ends, itemTokens]
    simp

theorem run_prettyFields : ∀ (fields : List (String × JsonValue)) (level : Nat)
    (before : List Token) {rest : List Char}, Delimited rest →
      run ⟨before, .outside []⟩ ((JsonValue.prettyFields level fields).toList ++ rest) =
        run ⟨(fieldTokens fields).reverse ++ before, .outside []⟩ rest
  | [], level, before, rest, _ => by
    rw [JsonValue.prettyFields, fieldTokens]
    rfl
  | (name, value) :: fields, level, before, rest, ends => by
    rw [JsonValue.prettyFields]
    simp only [String.toList_append, String.reduceToList, List.cons_append, List.nil_append,
      List.append_assoc]
    rw [run_punctuation (c := ',') rfl rfl rfl (by decide), run_newline, run_quoted, run_colon,
      run_pretty value level _ (delimited_fields level fields ends),
      run_prettyFields fields level _ ends, fieldTokens]
    simp

end

end Scanner

/-- A line break behind a text changes nothing. -/
theorem Scanner.finish_newline (scanner : Scanner) :
    (scanner.run ['\n']).bind finish = scanner.finish := by
  obtain ⟨before, mode⟩ := scanner
  cases mode <;> rfl

/-- A written value has the tokens of the value. -/
theorem tokensOf?_pretty (value : JsonValue) (level : Nat) :
    tokensOf? (value.pretty level) = some (valueTokens value) := by
  have ends : Scanner.Delimited ['\n'] := (by decide : isWordCharacter '\n' = false)
  have reads := Scanner.run_pretty value level [] ends
  have ended := congrArg (Option.bind · Scanner.finish) reads
  simp only [Scanner.run_append, Option.bind_assoc, Scanner.finish_newline] at ended
  rw [tokensOf?, ended]
  simp [Scanner.finish, Scanner.endWord]

end BehaviorDiff.Json
