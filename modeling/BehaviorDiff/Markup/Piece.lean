import BehaviorDiff.Markup.Characters

set_option autoImplicit false

/-!
Cutting a document into pieces of markup. A piece is what stands between `<` and the `>` that ends
it; which `>` that is depends on how the piece begins. Closing tags and instructions may also end
with the document.
-/

namespace BehaviorDiff.Markup

/-- The constructs that a document can end in the middle of. -/
inductive Construct where
  | comment
  | characterData
  | doctype
  | element
  | instruction
  | bang
  deriving DecidableEq, Repr

/-- The word for a construct. -/
def Construct.label : Construct → String
  | comment => "Comment"
  | characterData => "CData"
  | doctype => "DOCTYPE"
  | element => "Element"
  | instruction => "XmlDecl"
  | bang => "Bang"

/-- What is wrong with a piece of markup. -/
inductive ReadFault where
  | unexpectedEnd (construct : Construct)
  | mismatch (expected found : String)
  | emptyDoctype
  | badBang (symbol : Char)
  deriving DecidableEq, Repr

/-- The text of the complaint. -/
def ReadFault.message : ReadFault → String
  | unexpectedEnd construct => "Unexpected EOF during reading " ++ construct.label
  | mismatch expected found => "Expecting </" ++ expected ++ "> found </" ++ found ++ ">"
  | emptyDoctype => "DOCTYPE declaration must not be empty"
  | badBang symbol =>
    "Only Comment (`--`), CDATA (`[CDATA[`) and DOCTYPE (`DOCTYPE`) nodes can start with a '!', " ++
      "but symbol `" ++ symbol.toString ++ "` found"

/-- What a piece is, by its first characters. -/
inductive PieceKind where
  | element
  | closing
  | instruction
  | comment
  | characterData
  | doctype
  deriving DecidableEq, Repr

/-- A piece of markup; `closed` says whether it has its `>`. -/
structure Piece where
  kind : PieceKind
  content : List Char
  closed : Bool

namespace Piece

/-- The number of bytes of a piece behind its `<`. -/
def bytes (piece : Piece) : Nat := byteLength piece.content + if piece.closed then 1 else 0

/-- Cuts at the first `>`, or at the end. -/
def cutPlain (kind : PieceKind) (text : List Char) : Piece × List Char :=
  match splitAtFirst (· = '>') text with
  | (content, _ :: rest) => (⟨kind, content, true⟩, rest)
  | (content, []) => (⟨kind, content, false⟩, [])

/-- Cuts at the first `>` outside quotes; `quote` is the one that is open. -/
def cutElement (quote : Option Char) : List Char → Option (List Char × List Char)
  | [] => none
  | c :: rest =>
    match quote with
    | some q =>
      (cutElement (if c = q then none else some q) rest).map fun cut => (c :: cut.1, cut.2)
    | none =>
      if c = '>' then some ([], rest)
      else
        (cutElement (if c = '"' || c = '\'' then some c else none) rest).map
          fun cut => (c :: cut.1, cut.2)

/-- Cuts at the first `>` before which the content is complete; `before` is that content, backwards.
-/
def cutWhen (isComplete : List Char → Bool) (before : List Char) :
    List Char → Option (List Char × List Char)
  | [] => none
  | c :: rest =>
    if c = '>' && isComplete before then some (before.reverse, rest)
    else cutWhen isComplete (c :: before) rest

/-- Whether a comment with this content, backwards, is complete. -/
def isCompleteComment (before : List Char) : Bool :=
  "--".toList.isPrefixOf before && 4 < byteLength before

/-- Whether a section of character data with this content, backwards, is complete. -/
def isCompleteData (before : List Char) : Bool := "]]".toList.isPrefixOf before

/-- Whether a document type with this content, backwards, is complete. -/
def isCompleteDoctype (before : List Char) : Bool := before.count '<' == before.count '>'

/-- Cuts a piece that begins with `!` and a second character. -/
def cutBang (second : Char) (text : List Char) : Except ReadFault (Piece × List Char) :=
  let cut (kind : PieceKind) (construct : Construct) (isComplete : List Char → Bool) :
      Except ReadFault (Piece × List Char) :=
    match cutWhen isComplete [] text with
    | some (content, rest) => .ok (⟨kind, content, true⟩, rest)
    | none => .error (.unexpectedEnd construct)
  if second = '-' then cut .comment .comment isCompleteComment
  else if second = '[' then cut .characterData .characterData isCompleteData
  else if second = 'D' || second = 'd' then cut .doctype .doctype isCompleteDoctype
  else .error (.badBang (firstByte second))

/-- Cuts the piece that begins a text; the text starts behind `<`. -/
def cut (text : List Char) : Except ReadFault (Piece × List Char) :=
  match text with
  | '!' :: second :: _ => cutBang second text
  | ['!'] => .error (.unexpectedEnd .bang)
  | '/' :: _ => .ok (cutPlain .closing text)
  | '?' :: _ => .ok (cutPlain .instruction text)
  | _ =>
    match cutElement none text with
    | some (content, rest) => .ok (⟨.element, content, true⟩, rest)
    | none => .error (.unexpectedEnd .element)

theorem length_of_cutPlain (kind : PieceKind) (text : List Char) :
    (cutPlain kind text).2.length ≤ text.length := by
  have := length_splitAtFirst (· = '>') text
  unfold cutPlain
  split
  · next found =>
    simp only [found, List.length_cons] at this
    exact Nat.le_of_succ_le this
  · exact Nat.zero_le _

theorem length_of_cutElement {quote : Option Char} {text content rest : List Char}
    (h : cutElement quote text = some (content, rest)) : rest.length ≤ text.length := by
  induction text generalizing quote content with
  | nil => simp [cutElement] at h
  | cons c tail ih =>
    unfold cutElement at h
    have step : ∀ {q : Option Char} {f : List Char → List Char},
        (cutElement q tail).map (fun cut => (f cut.1, cut.2)) = some (content, rest) →
        rest.length ≤ (c :: tail).length := by
      intro q f hq
      obtain ⟨⟨inside, behind⟩, found, same⟩ := Option.map_eq_some_iff.1 hq
      simp only [Prod.mk.injEq] at same
      obtain ⟨-, rfl⟩ := same
      exact Nat.le_succ_of_le (ih found)
    split at h
    · exact step h
    · split at h
      · simp only [Option.some.injEq, Prod.mk.injEq] at h
        obtain ⟨-, rfl⟩ := h
        exact Nat.le_succ _
      · exact step h

theorem length_of_cutWhen {isComplete : List Char → Bool} {before text content rest : List Char}
    (h : cutWhen isComplete before text = some (content, rest)) : rest.length ≤ text.length := by
  induction text generalizing before with
  | nil => simp [cutWhen] at h
  | cons c tail ih =>
    unfold cutWhen at h
    split at h
    · simp only [Option.some.injEq, Prod.mk.injEq] at h
      obtain ⟨-, rfl⟩ := h
      exact Nat.le_succ _
    · exact Nat.le_succ_of_le (ih h)

theorem length_of_cutBang {second : Char} {text rest : List Char} {piece : Piece}
    (h : cutBang second text = .ok (piece, rest)) : rest.length ≤ text.length := by
  unfold cutBang at h
  have step : ∀ {kind : PieceKind} {construct : Construct} {isComplete : List Char → Bool},
      (match cutWhen isComplete [] text with
        | some (content, rest) => Except.ok (Piece.mk kind content true, rest)
        | none => Except.error (ReadFault.unexpectedEnd construct)) = .ok (piece, rest) →
      rest.length ≤ text.length := by
    intro kind construct isComplete hc
    split at hc
    · next found =>
      simp only [Except.ok.injEq, Prod.mk.injEq] at hc
      obtain ⟨-, rfl⟩ := hc
      exact length_of_cutWhen found
    · simp at hc
  simp only at h
  split at h
  · exact step h
  · split at h
    · exact step h
    · split at h
      · exact step h
      · simp at h

/-- What follows a piece is no longer than the text that it begins. -/
theorem length_of_cut {text rest : List Char} {piece : Piece}
    (h : cut text = .ok (piece, rest)) : rest.length ≤ text.length := by
  unfold cut at h
  split at h
  · exact length_of_cutBang h
  · simp at h
  · next tail =>
    simp only [Except.ok.injEq] at h
    have := length_of_cutPlain .closing ('/' :: tail)
    rw [h] at this
    exact this
  · next tail =>
    simp only [Except.ok.injEq] at h
    have := length_of_cutPlain .instruction ('?' :: tail)
    rw [h] at this
    exact this
  · split at h
    · next found =>
      simp only [Except.ok.injEq, Prod.mk.injEq] at h
      obtain ⟨-, rfl⟩ := h
      exact length_of_cutElement found
    · simp at h

end Piece

end BehaviorDiff.Markup
