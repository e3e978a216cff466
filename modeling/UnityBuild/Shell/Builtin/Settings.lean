import UnityBuild.Shell.Builtin.Variables
import UnityBuild.Shell.Expand

/-!
# Options and arguments of a shell

`set` turns options on and off and replaces the arguments, `shift` drops the first of them.
-/

namespace UnityBuild.Shell

/-- The names of the options, with their letters if they have any. -/
def optionNames : List (String × Option Char) :=
  [("errexit", some 'e'), ("noglob", some 'f'), ("ignoreeof", some 'I'),
    ("interactive", some 'i'), ("monitor", some 'm'), ("noexec", some 'n'), ("stdin", some 's'),
    ("xtrace", some 'x'), ("verbose", some 'v'), ("vi", some 'V'), ("emacs", some 'E'),
    ("noclobber", some 'C'), ("allexport", some 'a'), ("notify", some 'b'),
    ("nounset", some 'u'), ("privileged", some 'p'), ("nolog", none), ("debug", none)]

/-- Turns an option on or off. -/
def Session.setOption (s : Session) (letter : Char) (on : Bool) : Session :=
  { s with
    options := if on then letter :: s.options.filter (· != letter)
      else s.options.filter (· != letter) }

/-- Turns the option of a letter on or off. -/
def setLetter (on : Bool) (letter : Char) : ShellM Unit := do
  if optionLetters.contains letter then changeSession (·.setOption letter on)
  else fail ("Illegal option -" ++ String.ofList [letter])

/-- Turns the option of a name on or off. -/
def setNamed (on : Bool) (name : String) : ShellM Unit :=
  match optionNames.lookup name with
  | some (some letter) => changeSession (·.setOption letter on)
  | some none => return ()
  | none => fail ("Illegal option -o " ++ name)

/-- The listing of all options, as a table or as commands. -/
def listOptions (table : Bool) (s : Session) : String :=
  let isOn (letter : Option Char) := (letter.map s.has).getD false
  let lines := optionNames.map fun (name, letter) =>
    if table then
      name ++ String.ofList (List.replicate (16 - name.length) ' ') ++
        (if isOn letter then "on" else "off") ++ "\n"
    else "set " ++ (if isOn letter then "-o " else "+o ") ++ name ++ "\n"
  (if table then "Current option settings\n" else "") ++ String.join lines

/-- Turns the options of one argument on or off; an option by name takes the next argument. -/
def setLetters (on : Bool) : List Char → List String → ShellM (List String)
  | [], arguments => return arguments
  | 'o' :: letters, arguments => do
    match arguments with
    | name :: arguments =>
      setNamed on name
      setLetters on letters arguments
    | [] =>
      let _ ← output (listOptions on (← getSession))
      setLetters on letters []
  | letter :: letters, arguments => do
    setLetter on letter
    setLetters on letters arguments

/-- Turns the options at the front of the arguments on or off. Gives the arguments behind them,
and whether two hyphens ended the options. -/
def setOptions : Nat → List String → ShellM (List String × Bool)
  | 0, arguments => return (arguments, false)
  | rounds + 1, arguments => do
    match arguments with
    | [] => return ([], false)
    | "--" :: others => return (others, true)
    | "-" :: others =>
      changeSession fun s => (s.setOption 'x' false).setOption 'v' false
      return (others, false)
    | first :: others =>
      match first.toList with
      | '-' :: letters => do setOptions rounds (← setLetters true letters others)
      | '+' :: letters => do setOptions rounds (← setLetters false letters others)
      | _ => return (arguments, false)

/-- Replaces the arguments of the script. -/
def setArguments (arguments : List String) : ShellM Unit :=
  changeSession fun s => { s with arguments := arguments, nextOption := 1, optionOffset := 0 }

/-- Turns options on and off and replaces the arguments; without any, tells all variables. -/
def setCommand (arguments : List String) : ShellM Nat := do
  if arguments.isEmpty then
    output (listVariables "" (·.value.isSome) (← getSession))
  else
    let (others, ended) ← setOptions (arguments.length + 1) arguments
    if ended || !others.isEmpty then setArguments others
    return 0

/-- Drops the first arguments. -/
def shiftCommand (arguments : List String) : ShellM Nat := do
  let count ← match arguments with
    | [] => pure 1
    | text :: _ => readCount text
  let s ← getSession
  if s.arguments.length < count then fail "can't shift that many"
  setArguments (s.arguments.drop count)
  return 0

/-- Gives words another meaning, or tells what they mean. -/
def aliasCommand (arguments : List String) : ShellM Nat := do
  let tell (entry : String × String) : String := entry.1 ++ "=" ++ quoteText entry.2 ++ "\n"
  if arguments.isEmpty then
    return ← output (String.join ((← getSession).aliases.map tell))
  arguments.foldlM (fun status argument => do
    let (name, value) := cutAssignment argument
    match value with
    | some value =>
      changeSession fun s =>
        { s with aliases := s.aliases.filter (·.1 != name) ++ [(name, value)] }
      return status
    | none =>
      match (← getSession).aliases.lookup name with
      | some value =>
        let _ ← output (tell (name, value))
        return status
      | none =>
        let _ ← say 2 ("alias: " ++ name ++ " not found\n")
        return 1) 0

/-- Takes the other meaning of words away. -/
def unaliasCommand (arguments : List String) : ShellM Nat := do
  let (options, arguments) ← readOptions "a" arguments
  if !options.isEmpty then
    changeSession fun s => { s with aliases := [] }
    return 0
  arguments.foldlM (fun status name => do
    if ((← getSession).aliases.lookup name).isSome then
      changeSession fun s => { s with aliases := s.aliases.filter (·.1 != name) }
      return status
    else
      let _ ← say 2 ("unalias: " ++ name ++ " not found\n")
      return 1) 0

end UnityBuild.Shell
