import BehaviorDiff.Markup.Reference

set_option autoImplicit false

/-!
The attributes of a tag, in the order in which they stand. Keys are whatever stands before `=` or
white space; a key may occur once; a value stands in quotes. Positions count the bytes of the
content of the tag, its name included.
-/

namespace BehaviorDiff.Markup

/-- What is wrong with the form of an attribute. -/
inductive AttributeFault where
  | noEquals
  | noValue
  | unquoted
  | unclosed (quote : Char)
  | duplicate (earlier : Nat)
  deriving DecidableEq, Repr

/-- Why the attributes of a tag cannot be read. -/
inductive AttributeError where
  | malformed (position : Nat) (fault : AttributeFault)
  | badValue (name : String) (fault : ReferenceFault)
  deriving DecidableEq, Repr

/-- The text of the complaint. -/
def AttributeFault.message : AttributeFault → String
  | noEquals => "attribute key must be directly followed by `=` or space"
  | noValue => "`=` must be followed by an attribute value"
  | unquoted => "attribute value must be enclosed in `\"` or `'`"
  | unclosed quote => "missing closing quote `" ++ quote.toString ++ "` in attribute value"
  | duplicate earlier =>
    "duplicated attribute, previous declaration at position " ++ toString earlier

/-- The text of the complaint. -/
def AttributeError.message : AttributeError → String
  | malformed position fault =>
    "bad attribute: position " ++ toString position ++ ": " ++ fault.message
  | badValue name fault => "attribute '" ++ name ++ "': " ++ fault.message

/-- Leaves out white space at the front. -/
def skipBlanks (text : List Char) : List Char := text.dropWhile isBlank

/-- A key and the text behind its `=`; without one, the text at which it is missed. -/
def splitKey (first : Char) (rest : List Char) : List Char × Except (List Char) (List Char) :=
  let parts := splitAtFirst (fun c => c = '=' || isBlank c) rest
  match skipBlanks parts.2 with
  | '=' :: value => (first :: parts.1, .ok value)
  | missed => (first :: parts.1, .error missed)

/-- A quoted value and the text behind it; without one, the text at which the fault is found. -/
def splitValue (text : List Char) :
    Except (List Char × AttributeFault) (List Char × List Char) :=
  match skipBlanks text with
  | [] => .error ([], .noValue)
  | quote :: rest =>
    if quote = '"' || quote = '\'' then
      match splitAtFirst (· = quote) rest with
      | (value, _ :: after) => .ok (value, after)
      | (_, []) => .error ([], .unclosed quote)
    else .error (quote :: rest, .unquoted)

theorem length_skipBlanks (text : List Char) : (skipBlanks text).length ≤ text.length :=
  (List.dropWhile_suffix _).length_le

theorem length_of_splitKey {first : Char} {rest key value : List Char}
    (h : splitKey first rest = (key, .ok value)) : value.length ≤ rest.length := by
  simp only [splitKey] at h
  have tail := length_splitAtFirst (fun c => c = '=' || isBlank c) rest
  have skip := length_skipBlanks (splitAtFirst (fun c => c = '=' || isBlank c) rest).2
  split at h
  · next after =>
    simp only [Prod.mk.injEq, Except.ok.injEq] at h
    obtain ⟨-, rfl⟩ := h
    simp only [after, List.length_cons] at skip
    omega
  · simp at h

theorem length_of_splitValue {text value after : List Char}
    (h : splitValue text = .ok (value, after)) : after.length ≤ text.length := by
  unfold splitValue at h
  have skip := length_skipBlanks text
  split at h
  · simp at h
  · next quote rest skipped =>
    rw [skipped, List.length_cons] at skip
    split at h
    · split at h
      · next inside behind tail found =>
        have := length_splitAtFirst (· = quote) rest
        simp only [found, List.length_cons] at this
        simp only [Except.ok.injEq, Prod.mk.injEq] at h
        obtain ⟨-, rfl⟩ := h
        omega
      · simp at h
    · simp at h

/-- Reads the attributes in the rest of a tag's content of a given length in bytes; `seen` holds the
keys before it with their positions. -/
def readAttributes (length : Nat) (seen : List (List Char × Nat)) (text : List Char) :
    Except AttributeError (List (String × String)) :=
  match _hs : skipBlanks text with
  | [] => .ok []
  | first :: rest =>
    let position := length - byteLength (first :: rest)
    match _hk : splitKey first rest with
    | (_, .error missed) => .error (.malformed (length - byteLength missed) .noEquals)
    | (key, .ok afterKey) =>
      match seen.lookup key with
      | some earlier => .error (.malformed position (.duplicate earlier))
      | none =>
        match _hv : splitValue afterKey with
        | .error (found, fault) => .error (.malformed (length - byteLength found) fault)
        | .ok (raw, after) =>
          match resolve raw with
          | .error fault => .error (.badValue (String.ofList key) fault)
          | .ok value => do
            let others ← readAttributes length ((key, position) :: seen) after
            return (String.ofList key, String.ofList value) :: others
termination_by text.length
decreasing_by
  have skip := length_skipBlanks text
  have key := length_of_splitKey _hk
  have value := length_of_splitValue _hv
  rw [_hs, List.length_cons] at skip
  omega

/-- What an opening tag says: its name and, if they can be read, its attributes. -/
structure Tag where
  name : String
  attributes : Except AttributeError (List (String × String))

/-- The tag with a given content. The name ends before the first white space. -/
def Tag.ofContent (content : List Char) : Tag :=
  let (name, rest) := splitAtFirst isBlank content
  ⟨String.ofList name, readAttributes (byteLength content) [] rest⟩

end BehaviorDiff.Markup
