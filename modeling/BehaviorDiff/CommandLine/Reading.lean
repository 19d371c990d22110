import BehaviorDiff.CommandLine.Parameter

set_option autoImplicit false

/-!
Reading a command line from left to right. A parameter with a value waits until the next one begins
and is checked only then, so an unknown option counts before a bad value in front of it.
-/

namespace BehaviorDiff.CommandLine

/-- What has been read. `waiting?` is the last parameter with the value it has, if it has one yet,
and `wantsValue` says that the next word is its value. -/
structure Reading where
  found : List (Parameter × String)
  waiting? : Option (Parameter × Option String)
  wantsValue : Bool
  position : Nat

namespace Reading

/-- Nothing has been read. -/
def start : Reading := ⟨[], none, false, 0⟩

/-- Whether a parameter has been found. -/
def has (reading : Reading) (parameter : Parameter) : Bool :=
  reading.found.any (·.1 = parameter)

/-- The values of a parameter. -/
def values (reading : Reading) (parameter : Parameter) : List String :=
  (reading.found.filter (·.1 = parameter)).map (·.2)

/-- The value of a parameter. -/
def value? (reading : Reading) (parameter : Parameter) : Option String :=
  (reading.values parameter).head?

/-- Adds what has been found. -/
def add (reading : Reading) (parameter : Parameter) (value : String) : Reading :=
  { reading with found := reading.found ++ [(parameter, value)] }

/-- Takes a parameter with its value. What may stand once is not accepted again. -/
def take (reading : Reading) (parameter : Parameter) (value? : Option String) :
    Except UsageStop Reading :=
  match parameter.role with
  | .question stop => .error stop
  | .count => .ok (reading.add parameter "")
  | .switch =>
    if reading.has parameter then .error .conflict else .ok (reading.add parameter "")
  | .single =>
    match value? with
    | none => .error .invalidValue
    | some value =>
      if reading.has parameter then .error .conflict
      else if parameter.accepts value then .ok (reading.add parameter value)
      else .error .invalidValue
  | .repeatable =>
    match value? with
    | none => .error .invalidValue
    | some value =>
      if parameter.accepts value then .ok (reading.add parameter value)
      else .error .invalidValue

/-- Takes the parameter that waits. -/
def settle (reading : Reading) : Except UsageStop Reading :=
  match reading.waiting? with
  | none => .ok reading
  | some (parameter, value?) =>
    Reading.take { reading with waiting? := none } parameter value?

/-- Takes an option behind two hyphens, with a value behind an equals sign if there is one. -/
def takeOption (grammar : Grammar) (reading : Reading) (name : List Char)
    (value? : Option String) : Except UsageStop Reading :=
  match grammar.option? (String.ofList name) with
  | none => .error .unknownArgument
  | some option =>
    if option.hasValue then
      match value? with
      | some _ => do
        let settled ← reading.settle
        Reading.take { settled with wantsValue := false } option value?
      | none => do
        let settled ← reading.settle
        return { settled with waiting? := some (option, none), wantsValue := true }
    else if value?.isSome then .error .tooManyValues
    else do
      let settled ← reading.settle
      Reading.take { settled with wantsValue := false } option none

/-- Takes options by their letters; none of them has a value. -/
def takeLetters (grammar : Grammar) (reading : Reading) : List Char → Except UsageStop Reading
  | [] => .ok { reading with wantsValue := false }
  | letter :: letters =>
    match grammar.optionOfLetter? letter with
    | none => .error .unknownArgument
    | some option => do
      let settled ← reading.settle
      takeLetters grammar (← settled.take option none) letters

/-- Takes an argument. -/
def takeArgument (grammar : Grammar) (reading : Reading) (behindMark : Bool) (word : String) :
    Except UsageStop Reading :=
  match grammar.arguments[reading.position]? with
  | some argument => do
    let settled ← reading.settle
    return ⟨settled.found, some (argument, some word), false, reading.position + 1⟩
  | none =>
    if grammar.commands.isEmpty || (behindMark && grammar.commands.contains word) then
      .error .unknownArgument
    else .error .unknownCommand

/-- Takes a word that is no option: the value of the option before it, or an argument. -/
def takeWord (grammar : Grammar) (reading : Reading) (word : String) : Except UsageStop Reading :=
  match reading.waiting?, reading.wantsValue with
  | some (option, _), true =>
    .ok { reading with waiting? := some (option, some word), wantsValue := false }
  | _, _ => takeArgument grammar reading false word

end Reading

/-- Reads words up to the end, or up to the name of a command. Behind two hyphens all words are
arguments. -/
def readWords (grammar : Grammar) (behindMark : Bool) (reading : Reading) :
    List String → Except UsageStop (Reading × Option (String × List String))
  | [] => .ok (reading, none)
  | word :: rest =>
    if behindMark then do
      readWords grammar true (← reading.takeArgument grammar true word) rest
    else if !reading.wantsValue && grammar.commands.contains word then
      .ok (reading, some (word, rest))
    else
      match word.toList with
      | ['-', '-'] => readWords grammar true reading rest
      | '-' :: '-' :: long => do
        let name := long.takeWhile (· ≠ '=')
        let value? := match long.dropWhile (· ≠ '=') with
          | _ :: value => some (String.ofList value)
          | [] => none
        readWords grammar false (← reading.takeOption grammar name value?) rest
      | '-' :: c :: letters => do
        readWords grammar false (← reading.takeLetters grammar (c :: letters)) rest
      | _ => do readWords grammar false (← reading.takeWord grammar word) rest

/-- Reads the words of a command. -/
def readCommand (grammar : Grammar) (words : List String) : Except UsageStop Reading := do
  let (reading, _) ← readWords grammar false .start words
  reading.settle

/-- The value of an argument, which has to be there. -/
def Reading.argument (reading : Reading) (parameter : Parameter) : Except UsageStop String :=
  match reading.value? parameter with
  | some value => .ok value
  | none => .error .missingArgument

/-- The comparison that was asked for. A single tree and all trees exclude each other. -/
def compareRequest (reading : Reading) : Except UsageStop Command := do
  if reading.has .tree && reading.has .all then throw .conflict
  return .compare {
    old := ← reading.argument .old
    new := ← reading.argument .new
    tree := reading.value? .tree
    hints := reading.values .hint
    format := (reading.value? .format).bind fun name => OutputFormat.names.lookup name
    showUnchanged := reading.has .showUnchanged
    all := reading.has .all
    exitCode := reading.has .exitCode }

/-- The command of a name, from its words. -/
def commandOf (name : String) (words : List String) : Except UsageStop (Reading × Command) :=
  match name with
  | "compare" => do
    let reading ← readCommand .compare words
    return (reading, ← compareRequest reading)
  | "show" => do
    let reading ← readCommand .outline words
    return (reading, .outline (← reading.argument .file) (reading.value? .tree))
  | _ => do
    let reading ← readCommand .stats words
    return (reading, .stats (← reading.argument .file))

/-- The answer to a request for help on a command. -/
def helpOn : List String → UsageStop
  | [] => .help
  | [name] => if Grammar.program.commands.contains name then .help else .unknownCommand
  | _ => .unknownCommand

/-- The greatest verbosity. -/
def verbosityLimit : Nat := 255

/-- What a command line asks for. An option that stands both before and behind the name of the
command counts as it stands behind. -/
def invocationOf (words : List String) : Except UsageStop Invocation := do
  match ← readWords .program false .start words with
  | (reading, some (name, rest)) =>
    if name = Grammar.helpName then throw (helpOn rest)
    let (inner, command) ← commandOf name rest
    let outer ← reading.settle
    let counted := if inner.has .verbose then inner else outer
    return {
      command
      preferences := (inner.value? .preferences).or (outer.value? .preferences)
      verbosity := min (counted.values .verbose).length verbosityLimit }
  | (reading, none) =>
    let settled ← reading.settle
    throw (if settled.found.isEmpty then .helpForMissingCommand else .missingCommand)

end BehaviorDiff.CommandLine
