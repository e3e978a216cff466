import UnityBuild.Shell.Builtin.Arguments

/-!
# Built-in commands on variables

Variables can be shown to other programs, protected, hidden by a function for as long as it runs,
and removed. `read` sets variables from a line of the input.
-/

namespace UnityBuild.Shell

/-- The lines that tell variables with their values, in order. -/
def listVariables (front : String) (chosen : Variable → Bool) (s : Session) : String :=
  let entries := (s.bindings.filter fun entry => chosen entry.2).mergeSort fun a b => a.1 ≤ b.1
  String.join (entries.map fun (name, v) =>
    front ++ name ++ (match v.value with
      | some value => "=" ++ quoteText value
      | none => "") ++ "\n")

/-- The name and the value of an argument that sets a variable. -/
def cutAssignment (argument : String) : String × Option String :=
  let (name, value) := Text.cutAt '=' argument.toList
  (String.ofList name, value.map String.ofList)

/-- Refuses what is no name of a variable. -/
def checkName (name text : String) : ShellM Unit := do
  if !isName name then fail (text ++ ": bad variable name")

/-- Sets a variable if a value is given, and changes its role. -/
def declare (role : Variable → Variable) (argument : String) : ShellM Unit := do
  let (name, value) := cutAssignment argument
  checkName name name
  value.forM (setVariable name)
  changeSession fun s => s.putVariable name (role ((s.find? name).getD ⟨none, false, false⟩))

/-- Changes the role of variables, or tells those that have it. -/
def declareCommand (word : String) (hasRole : Variable → Bool) (role : Variable → Variable)
    (arguments : List String) : ShellM Nat := do
  let (options, arguments) ← readOptions "p" arguments
  if arguments.isEmpty || !options.isEmpty then
    output (listVariables (word ++ " ") hasRole (← getSession))
  else
    arguments.forM (declare role)
    return 0

/-- Shows variables to other programs. -/
def exportCommand : List String → ShellM Nat :=
  declareCommand "export" (·.exported) fun v => { v with exported := true }

/-- Protects variables. -/
def readonlyCommand : List String → ShellM Nat :=
  declareCommand "readonly" (·.readOnly) fun v => { v with readOnly := true }

/-- Remembers a variable as it is, for the function that runs. -/
def remember (name : String) (s : Session) : Session :=
  match s.frames with
  | frame :: frames =>
    if frame.bindings.any fun entry => entry.1 == name then s
    else { s with
      frames := { frame with bindings := (name, s.find? name) :: frame.bindings } :: frames }
  | [] => s

/-- Remembers the options as they are, for the function that runs. -/
def rememberOptions (s : Session) : Session :=
  match s.frames with
  | frame :: frames =>
    { s with frames := { frame with options := some (frame.options.getD s.options) } :: frames }
  | [] => s

/-- Hides variables for as long as the function runs; one without a new value keeps the old. -/
def localCommand (arguments : List String) : ShellM Nat := do
  let (_, arguments) ← readOptions "" arguments
  if (← getSession).callDepth = 0 then fail "not in a function"
  arguments.forM fun argument => do
    if argument = "-" then changeSession rememberOptions
    else
      let (name, value) := cutAssignment argument
      checkName name name
      changeSession (remember name)
      value.forM (setVariable name)
  return 0

/-- Removes variables or functions. -/
def unsetCommand (arguments : List String) : ShellM Nat := do
  let (options, arguments) ← readOptions "vf" arguments
  let functions := (options.getLast?.map (·.1)) == some 'f'
  arguments.forM fun name => do
    if functions then
      changeSession fun s => { s with functions := s.functions.filter (·.1 != name) }
    else
      checkName name name
      checkWritable name
      changeSession (·.dropVariable name)
  return 0

/-! ### Reading a line -/

/-- A line with what a backslash protects marked. -/
abbrev MarkedLine := List (Char × Bool)

/-- Marks the characters of a line; a backslash at its end asks for another line. -/
def markLine (raw : Bool) : List Char → MarkedLine × Bool
  | [] => ([], false)
  | ['\\'] => if raw then ([('\\', false)], false) else ([], true)
  | '\\' :: c :: s =>
    if raw then
      let (rest, more) := markLine raw (c :: s)
      (('\\', false) :: rest, more)
    else
      let (rest, more) := markLine raw s
      ((c, true) :: rest, more)
  | c :: s =>
    let (rest, more) := markLine raw s
    ((c, false) :: rest, more)

/-- Reads a line that may go on behind backslashes; `rounds` bounds how often. The second
component tells whether the line had an end. -/
def readMarked (raw : Bool) : Nat → MarkedLine → ShellM (MarkedLine × Bool)
  | 0, front => return (front, false)
  | rounds + 1, front => do
    match ← readLine? 0 with
    | none => return (front, false)
    | some (text, ended) =>
      let (marked, more) := markLine raw (text.toList.filter (· != '\x00'))
      if more && ended then readMarked raw rounds (front ++ marked)
      else return (front ++ marked, ended)

/-- Whether a character separates fields. -/
def separates (separators : List Char) (c : Char × Bool) : Bool :=
  !c.2 && separators.contains c.1

/-- Whether a character is a separator that counts once however many there are. -/
def separatesLoosely (separators : List Char) (c : Char × Bool) : Bool :=
  separates separators c && (c.1 == ' ' || c.1 == '\t' || c.1 == '\n')

/-- Drops one separator with the blanks around it. -/
def dropSeparator (separators : List Char) (s : MarkedLine) : MarkedLine :=
  let s := s.dropWhile (separatesLoosely separators)
  match s with
  | c :: rest =>
    if separates separators c then rest.dropWhile (separatesLoosely separators) else s
  | [] => []

/-- The text of a line. -/
def lineText (s : MarkedLine) : String :=
  String.ofList (s.map (·.1))

/-- What the last variable gets: the rest of the line without blanks at its end, and without a
separator behind its only field. -/
def lastField (separators : List Char) (s : MarkedLine) : String :=
  let field := s.takeWhile fun c => !separates separators c
  if (dropSeparator separators (s.drop field.length)).isEmpty then lineText field
  else lineText (s.reverse.dropWhile (separatesLoosely separators)).reverse

/-- Sets variables to the fields of a line. -/
def setFields (separators : List Char) : List String → MarkedLine → ShellM Unit
  | [], _ => return ()
  | [name], s => assign name (lastField separators s)
  | name :: names, s => do
    let field := s.takeWhile fun c => !separates separators c
    assign name (lineText field)
    setFields separators names (dropSeparator separators (s.drop field.length))
where
  assign (name value : String) : ShellM Unit := do
    checkName name name
    setVariable name value

/-- Reads a line and sets variables to its fields. -/
def readCommandLine (arguments : List String) : ShellM Nat := do
  let (options, names) ← readOptions "p:r" arguments
  if names.isEmpty then fail "arg count"
  let raw := options.any (·.1 == 'r')
  let (line, ended) ← readMarked raw 100000 []
  let separators := (← getSession).separators.toList
  setFields separators names (line.dropWhile (separatesLoosely separators))
  return statusOf ended

/-! ### Options of a script -/

/-- What was found at an option: its letter or a sign for a fault, its value, and how to go on. -/
structure FoundOption where
  letter : Char
  value : Option String
  complaint : Option String := none
  nextWord : Nat
  offset : Nat := 0

/-- Looks an option up among the known ones; `behind` are the characters behind it in its word,
`others` the words behind that one, and `word` its number. -/
def lookUpOption (known : List Char) (letter : Char) (behind : List Char) (others : List String)
    (word offset : Nat) : FoundOption :=
  let quiet := known.head? == some ':'
  let goOn := if behind.isEmpty then 0 else offset
  let name := String.ofList [letter]
  if letter == ':' || !known.contains letter then
    if quiet then ⟨'?', some name, none, word + 1, goOn⟩
    else ⟨'?', none, some ("Illegal option -" ++ name ++ "\n"), word + 1, goOn⟩
  else if takesValue known letter then
    if !behind.isEmpty then ⟨letter, some (String.ofList behind), none, word + 1, 0⟩
    else match others with
      | value :: _ => ⟨letter, some value, none, word + 2, 0⟩
      | [] =>
        if quiet then ⟨':', some name, none, word + 1, 0⟩
        else ⟨'?', none, some ("No arg for -" ++ name ++ " option\n"), word + 1, 0⟩
  else ⟨letter, some "", none, word + 1, goOn⟩

/-- Finds the next option in words, of which the one of number `next` comes next; inside of the
word before it, `offset` characters were used. -/
def nextOption? (known : List Char) (words : List String) (next offset : Nat) :
    FoundOption ⊕ Nat :=
  let inside := if next ≤ 1 ∨ offset = 0 then [] else
    ((words[next - 2]?).getD "").toList.drop offset
  match inside with
  | letter :: behind =>
    .inl (lookUpOption known letter behind (words.drop (next - 1)) (next - 1) (offset + 1))
  | [] =>
    match words[next - 1]? with
    | none => .inr next
    | some word =>
      if word = "--" then .inr (next + 1)
      else match word.toList with
        | '-' :: letter :: behind =>
          .inl (lookUpOption known letter behind (words.drop next) next 2)
        | _ => .inr next

/-- Tells what was found at an option. -/
def tellOption (found : FoundOption) : ShellM Unit := do
  found.complaint.forM fun text => do
    let _ ← say 2 text
  match found.value with
  | some value => setVariable "OPTARG" value
  | none => changeSession (·.dropVariable "OPTARG")

/-- Reads the next option of the arguments into a variable. -/
def getoptsCommand (arguments : List String) : ShellM Nat := do
  match arguments with
  | known :: name :: words =>
    let s ← getSession
    let words := if words.isEmpty then s.arguments else words
    let (next, offset) := if words.length + 1 < s.nextOption then (1, 0)
      else (s.nextOption, s.optionOffset)
    let result := nextOption? known.toList words next offset
    let (letter, nextWord, offset) ← match result with
      | .inr nextWord => pure ('?', nextWord, 0)
      | .inl found =>
        tellOption found
        pure (found.letter, found.nextWord, found.offset)
    setVariable "OPTIND" (toString nextWord)
    checkName name name
    setVariable name (String.ofList [letter])
    changeSession fun s => { s with nextOption := nextWord, optionOffset := offset }
    return statusOf result.isLeft
  | _ => fail "Usage: getopts optstring var [arg...]"

end UnityBuild.Shell
