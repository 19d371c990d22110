import BehaviorDiff.Markup.Event
import BehaviorDiff.Proofs.Markup.WrittenTag

set_option autoImplicit false

/-!
Reading a text that is followed by another one. A text whose reading does not depend on what stands
behind it gives its events and leaves some elements open; two such texts, one behind the other, give
the events of both. Written tags, comments and characters outside of markup are such texts.
-/

namespace BehaviorDiff.Markup

/-- The stream with events before its own. -/
def EventStream.behind (stream : EventStream) (events : List Event) : EventStream :=
  ⟨events ++ stream.events, stream.failure⟩

theorem EventStream.behind_nil (stream : EventStream) : stream.behind [] = stream := rfl

theorem EventStream.behind_behind (stream : EventStream) (events events' : List Event) :
    (stream.behind events').behind events = stream.behind (events ++ events') := by
  simp [behind]

theorem byteLength_append (a b : List Char) :
    byteLength (a ++ b) = byteLength a + byteLength b := by
  induction a with
  | nil => exact (Nat.zero_add _).symm
  | cons c rest ih => rw [List.cons_append, byteLength, byteLength, ih, Nat.add_assoc]

/-- The events of a text that is empty or starts with markup at a position. -/
def eventsAt (opened : List (List Char)) (position : Nat) : List Char → EventStream
  | [] => ⟨[], none⟩
  | [_] => ⟨[], none⟩
  | _ :: markup =>
    match Piece.cut markup with
    | .error fault => ⟨[], some ⟨position + 1, fault⟩⟩
    | .ok (piece, rest) =>
      match piece.interpret opened (position + 1) with
      | .error error => ⟨[], some error⟩
      | .ok (event?, stillOpen) =>
        (readEvents stillOpen (position + 1 + piece.bytes) rest).behind event?.toList

/-- Reading starts at the first markup. -/
theorem readEvents_eq (opened : List (List Char)) (position : Nat) (text : List Char) :
    readEvents opened position text =
      eventsAt opened (position + byteLength (splitAtFirst (· = '<') text).1)
        (splitAtFirst (· = '<') text).2 := by
  rw [readEvents]
  split
  · next found => rw [found, eventsAt]
  · next found => rw [found, eventsAt]
  · next skipped _ _ several found =>
    rw [found, eventsAt]
    · split
      · next missed => simp only [missed]
      · next piece _ cut =>
        simp only [cut]
        cases piece.interpret opened (position + byteLength skipped + 1) with
        | error error => rfl
        | ok said => rfl
    · exact several

/-- Inside some open elements a text gives its events and leaves elements open, whatever stands
behind it. -/
def Reads (opened : List (List Char)) (text : List Char) (events : List Event)
    (still : List (List Char)) : Prop :=
  ∀ position tail, readEvents opened position (text ++ tail) =
    (readEvents still (position + byteLength text) tail).behind events

section Reads
variable {opened middle still : List (List Char)}

theorem Reads.nil (opened : List (List Char)) : Reads opened [] [] opened := fun _ _ => rfl

theorem Reads.append {text text' : List Char} {events events' : List Event}
    (h : Reads opened text events middle) (h' : Reads middle text' events' still) :
    Reads opened (text ++ text') (events ++ events') still := by
  intro position tail
  rw [List.append_assoc, h, h', EventStream.behind_behind, byteLength_append, Nat.add_assoc]

theorem reads_character {c : Char} (h : c ≠ '<') : Reads opened [c] [] opened := by
  intro position tail
  have split : splitAtFirst (· = '<') (c :: tail) =
      (c :: (splitAtFirst (· = '<') tail).1, (splitAtFirst (· = '<') tail).2) := by
    simp [splitAtFirst, h]
  rw [List.singleton_append, EventStream.behind_nil, readEvents_eq opened position, split,
    readEvents_eq opened (position + byteLength [c]), byteLength, byteLength, byteLength,
    Nat.add_zero, Nat.add_assoc]

/-- A piece of markup with a given content. -/
def inBrackets (content : List Char) : List Char := '<' :: (content ++ ['>'])

/-- A piece that ends with its content gives what it says. -/
theorem reads_inBrackets {kind : PieceKind} {content : List Char} {event? : Option Event}
    (cut : ∀ tail, Piece.cut (content ++ '>' :: tail) = .ok (⟨kind, content, true⟩, tail))
    (said : ∀ start, (Piece.mk kind content true).interpret opened start = .ok (event?, still)) :
    Reads opened (inBrackets content) event?.toList still := by
  intro position tail
  have text : inBrackets content ++ tail = '<' :: (content ++ '>' :: tail) := by simp [inBrackets]
  have bytes : byteLength (inBrackets content) = 1 + (Piece.mk kind content true).bytes := by
    rw [inBrackets, byteLength, byteLength_append]
    rfl
  have split : splitAtFirst (· = '<') ('<' :: (content ++ '>' :: tail)) =
      ([], '<' :: (content ++ '>' :: tail)) := rfl
  rw [text, readEvents_eq, split, bytes, ← Nat.add_assoc, eventsAt]
  · simp only [cut, said]
    rfl
  · simp

end Reads

section Tags
variable {opened : List (List Char)} {name : String} {attributes : Attributes}

/-- A tag that opens an element, as it is written. -/
def openingTag (name : String) (attributes : Attributes) : List Char :=
  inBrackets (tagContent name attributes)

/-- A tag that is an element by itself, as it is written. -/
def singleTag (name : String) (attributes : Attributes) : List Char :=
  inBrackets (tagContent name attributes ++ ['/'])

/-- A tag that closes an element, as it is written. -/
def closingTag (name : String) : List Char := inBrackets ('/' :: name.toList)

theorem cut_of_isAlpha {text content after : List Char}
    (letter : ∃ first rest, text = first :: rest ∧ first.isAlpha = true)
    (h : Piece.cutElement none text = some (content, after)) :
    Piece.cut text = .ok (⟨.element, content, true⟩, after) := by
  obtain ⟨first, rest, rfl, letter⟩ := letter
  unfold Piece.cut
  split
  case h_5 => rw [h]
  all_goals
    rename_i same
    cases same
    exact absurd letter (by decide)

section Words
variable (word : IsWord name.toList) (words : ∀ key ∈ attributes.keys, IsWord key.toList)

include word

theorem exists_isAlpha_tagContent (text : List Char) :
    ∃ first rest, tagContent name attributes ++ text = first :: rest ∧ first.isAlpha = true := by
  obtain ⟨first, rest, letters⟩ := word.exists_cons
  rw [letters] at word
  exact ⟨first, _, by rw [tagContent, letters]; rfl, word.1⟩

theorem closingName_of_isWord : closingName name.toList = name.toList := by
  have kept : name.toList.reverse.dropWhile isBlank = name.toList.reverse := by
    cases letters : name.toList.reverse with
    | nil => rfl
    | cons last rest =>
      have hm : last ∈ name.toList := List.mem_reverse.1 (letters ▸ List.mem_cons_self)
      rw [List.dropWhile_cons_of_neg (by simp [isBlank_eq_false (word.character hm)])]
  obtain ⟨first, rest, letters⟩ := word.exists_cons
  rw [closingName, kept, List.reverse_reverse, letters]

theorem reads_closingTag :
    Reads (name.toList :: opened) (closingTag name) [.closing] opened := by
  refine @reads_inBrackets _ _ .closing _ (some .closing) (fun tail => ?_) fun start => ?_
  · have free : ∀ c ∈ '/' :: name.toList, decide (c = '>') = false := by
      refine List.forall_mem_cons.2 ⟨rfl, fun c hc => decide_eq_false ?_⟩
      exact ne_of_isWordCharacter (word.character hc) (by decide)
    have split := splitAtFirst_append_cons free (show decide ('>' = '>') = true from rfl) tail
    change Except.ok (Piece.cutPlain .closing ('/' :: name.toList ++ '>' :: tail)) = _
    rw [Piece.cutPlain, split]
  · simp [Piece.interpret, closingName_of_isWord word]

include words

theorem reads_openingTag : Reads opened (openingTag name attributes)
    [.opening ⟨name, .ok attributes.entries⟩] (name.toList :: opened) := by
  refine @reads_inBrackets _ _ .element _ (some (.opening ⟨name, .ok attributes.entries⟩))
    (fun tail => ?_) fun start => ?_
  · refine cut_of_isAlpha (exists_isAlpha_tagContent word _) ?_
    rw [uncut_tagContent word words, Piece.cutElement, if_pos rfl]
    simp
  · simp only [Piece.interpret, if_neg (getLast?_tagContent_ne word),
      splitAtFirst_tagContent word, ofContent_tagContent word words]

theorem reads_singleTag : Reads opened (singleTag name attributes)
    [.single ⟨name, .ok attributes.entries⟩] opened := by
  refine @reads_inBrackets _ _ .element _ (some (.single ⟨name, .ok attributes.entries⟩))
    (fun tail => ?_) fun start => ?_
  · rw [List.append_assoc]
    refine cut_of_isAlpha (exists_isAlpha_tagContent word _) ?_
    have slash : Piece.cutElement none ('/' :: '>' :: tail) = some (['/'], tail) := rfl
    rw [uncut_tagContent word words, List.singleton_append, slash]
    rfl
  · simp only [Piece.interpret, List.getLast?_concat, List.dropLast_concat, if_true,
      ofContent_tagContent word words]

end Words

end Tags

section Comments
variable {opened : List (List Char)}

/-- A comment as it is written. -/
def commentText (body : List Char) : List Char :=
  inBrackets ('!' :: '-' :: '-' :: (body ++ ['-', '-']))

/-- A comment without `--` in its body is not complete inside the body. -/
theorem isCompleteComment_of_free {body : List Char} (free : ¬ ['-', '-'] <:+: body) :
    Piece.isCompleteComment (body.reverse ++ ['-', '-', '!']) = false := by
  -- The dashes behind `<!` count as those of the end only in a content that is too short.
  rcases List.eq_nil_or_concat body with rfl | ⟨front, last, rfl⟩
  · rfl
  rcases List.eq_nil_or_concat front with rfl | ⟨front, previous, rfl⟩
  · by_cases dash : last = '-'
    · rw [dash]
      rfl
    · simp [Piece.isCompleteComment, Ne.symm dash]
  · have apart : ¬ ('-' = last ∧ '-' = previous) := by
      rintro ⟨rfl, rfl⟩
      exact free ⟨front, [], by simp⟩
    simp [Piece.isCompleteComment, apart]

theorem cutWhen_isCompleteComment {done body : List Char} (free : ¬ ['-', '-'] <:+: done ++ body)
    (after : List Char) :
    Piece.cutWhen Piece.isCompleteComment (done.reverse ++ ['-', '-', '!'])
        (body ++ '-' :: '-' :: '>' :: after) =
      some ('!' :: '-' :: '-' :: (done ++ body ++ ['-', '-']), after) := by
  induction body generalizing done with
  | nil =>
    have complete : Piece.isCompleteComment
        ('-' :: '-' :: (done.reverse ++ ['-', '-', '!'])) = true := by
      have long : 4 < byteLength ('-' :: '-' :: (done.reverse ++ ['-', '-', '!'])) := by
        have dashes : byteLength ['-', '-', '!'] = 3 := rfl
        have dash : '-'.utf8Size = 1 := rfl
        rw [byteLength, byteLength, byteLength_append, dashes, dash]
        omega
      rw [Piece.isCompleteComment, decide_eq_true long]
      rfl
    simp [Piece.cutWhen, complete]
  | cons c rest ih =>
    have before : ¬ ['-', '-'] <:+: done := fun h => free (h.trans (List.infix_append' [] done _))
    -- Even if this character is a `>`, the comment does not end at it.
    have next := @ih (done ++ [c]) (by simpa using free)
    rw [List.cons_append, Piece.cutWhen, isCompleteComment_of_free before, Bool.and_false]
    simpa using next

theorem reads_commentText {body : List Char} (free : ¬ ['-', '-'] <:+: body) :
    Reads opened (commentText body) [] opened := by
  refine @reads_inBrackets _ _ .comment _ none (fun tail => ?_) fun start => rfl
  have text : '!' :: '-' :: '-' :: (body ++ ['-', '-']) ++ '>' :: tail =
      '!' :: '-' :: '-' :: (body ++ '-' :: '-' :: '>' :: tail) := by simp
  have found : Piece.cutWhen Piece.isCompleteComment []
      ('!' :: '-' :: '-' :: (body ++ '-' :: '-' :: '>' :: tail)) =
        some ('!' :: '-' :: '-' :: (body ++ ['-', '-']), tail) :=
    @cutWhen_isCompleteComment [] body free tail
  simp only [text, Piece.cut, Piece.cutBang, found, if_true]

end Comments

end BehaviorDiff.Markup
