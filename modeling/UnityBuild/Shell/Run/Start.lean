import UnityBuild.Shell.Builtin.Place
import UnityBuild.Shell.Builtin.Settings
import UnityBuild.Shell.Program
import UnityBuild.Shell.Run.Job
import UnityBuild.Shell.Utility

/-!
# Starting programs

A program is a utility or the shell itself. What is no program at all is a script of the shell.
-/

namespace UnityBuild.Shell

/-- The programs of a system. -/
def programNames : List String :=
  "sh" :: "dash" :: Utility.names

section Running

variable (run : Runner)

/-- The session of a shell that is started as a program. -/
def Session.started (old : Session) (name here : String) : Session :=
  let inherited := old.environment.map fun (variableName, value) =>
    (variableName, Variable.mk (some value) true false)
  let own : List (String × String) :=
    [("IFS", standardSeparators), ("OPTIND", "1"), ("PS1", "# "), ("PS2", "> "), ("PS4", "+ "),
      ("PPID", toString (old.ancestors.head?.getD 1))]
  let start : Session :=
    { name := name
      directory := here
      bindings := inherited
      traps := old.traps.filter (·.2.isEmpty)
      descriptors := old.descriptors
      number := old.process
      process := old.process
      ancestors := old.ancestors }
  let s := own.foldl (fun s entry => s.putVariable entry.1 ⟨some entry.2, false, false⟩) start
  s.putVariable "PWD" ⟨some here, true, false⟩

/-- Reads the letters of an argument of the shell. Gives the arguments behind it and whether the
script is an argument. -/
def shellLetters (on : Bool) : List Char → List String → Bool → ShellM (List String × Bool)
  | [], arguments, given => return (arguments, given)
  | 'c' :: letters, arguments, _ => shellLetters on letters arguments true
  | 'l' :: letters, arguments, given => shellLetters on letters arguments given
  | 'o' :: letters, arguments, given => do
    match arguments with
    | name :: arguments =>
      setNamed on name
      shellLetters on letters arguments given
    | [] =>
      let _ ← output (listOptions on (← getSession))
      shellLetters on letters [] given
  | letter :: letters, arguments, given => do
    setLetter on letter
    shellLetters on letters arguments given

/-- Reads the options of the shell; `rounds` bounds how many there are. -/
def shellOptions : Nat → List String → Bool → ShellM (List String × Bool)
  | 0, arguments, given => return (arguments, given)
  | rounds + 1, arguments, given => do
    match arguments with
    | [] => return ([], given)
    | "-" :: others => return (others, given)
    | "--" :: others => return (others, given)
    | first :: others =>
      match first.toList with
      | '-' :: letters =>
        let (others, given) ← shellLetters true letters others given
        shellOptions rounds others given
      | '+' :: letters =>
        let (others, given) ← shellLetters false letters others given
        shellOptions rounds others given
      | _ => return (arguments, given)

/-- The content of a script; a directory has none. -/
def readScript (path : String) : ShellM String := do
  match ← readPath path with
  | .ok content => return Text.ofBytes content
  | .error .isDirectory => return ""
  | .error error => failToOpen false path error

/-- Does what the arguments of the shell ask for. -/
def runArguments (arguments : List String) : ShellM Nat := do
  let (arguments, given) ← shellOptions (arguments.length + 1) arguments false
  let rename (name : Option String) (arguments : List String) : ShellM Unit :=
    changeSession fun s => { s with name := name.getD s.name, arguments := arguments }
  let fromInput := (← getSession).has 's'
  match arguments with
  | text :: others =>
    if given then
      rename others.head? (others.drop 1)
      let status ← runText run false text
      if fromInput then readInput else return status
    else if fromInput then
      rename none arguments
      readInput
    else
      let script ← readScript text
      rename (some text) others
      runScript run script
  | [] =>
    if given then fail "-c requires an argument"
    changeSession (·.setOption 's' true)
    readInput
where
  readInput : ShellM Nat := do
    let content := (← readAll? 0).getD .empty
    runScript run (Text.ofBytes content)

/-- The shell as a program. -/
def runShell (arguments : List String) : ShellM Nat := do
  let here := startingPath (← get)
  changeSession fun old => old.started (arguments.headD "sh") here
  asShell (runText run false) (runArguments run (arguments.drop 1))

/-- The texts of the variables that programs get to see. -/
def environmentTexts (s : Session) : List String :=
  s.environment.map fun (name, value) => name ++ "=" ++ value

/-- The program at a path with its arguments; what is no program is a script of the shell. -/
def loadProgram (path : String) (arguments : List String) :
    ShellM (Except SystemError Program.Loaded) := do
  let s ← get
  match Program.load s.files programNames path arguments (environmentTexts s.session) with
  | .error .notExecutableFormat =>
    return .ok ⟨"sh", "/bin/sh" :: path :: arguments.drop 1⟩
  | result => return result

/-- The row of the table of variables that a name stands in. -/
def variableRow (name : String) : Nat :=
  let letters := name.toList.map Char.toNat
  letters.foldl (· + ·) (16 * letters.headD 0) % 39

/-- A session as a program gets it from a shell: with the variables that it gets to see, row by
row. -/
def Session.handedOver (s : Session) : Session :=
  let seen := s.bindings.filter fun entry => entry.2.exported && entry.2.value.isSome
  { s with bindings := seen.mergeSort fun a b => variableRow a.1 ≤ variableRow b.1 }

/-- The first program that can be started among paths. Otherwise it is told what is wrong with the
last one that is there. -/
def loadFirst (arguments : List String) (problem : SystemError) :
    List String → ShellM (Except SystemError Program.Loaded)
  | [] => return .error problem
  | path :: paths => do
    match ← loadProgram path arguments with
    | .ok loaded => return .ok loaded
    | .error .noEntry => loadFirst arguments problem paths
    | .error .notDirectory => loadFirst arguments problem paths
    | .error error => loadFirst arguments error paths

/-- The paths of a program that is looked for in directories. -/
def pathsOf (directories : List String) (name : String) : List String :=
  if name.toList.contains '/' then [name]
  else if name.isEmpty then []
  else directories.map (Program.inDirectory · name)

/-- Runs a program in place of the session; `depth` bounds how many programs start each other
without a shell between them. -/
def runLoaded : Nat → Program.Loaded → ShellM Nat
  | 0, _ => throw .failed
  | depth + 1, ⟨program, arguments⟩ =>
    match Utility.find? program with
    | some utility => do
      changeSession fun s => { s with program := arguments.headD program, lost := none }
      Utility.closeOutput program (← utility (startNamed depth) (arguments.drop 1))
    | none => runShell run arguments
where
  startNamed (depth : Nat) (arguments : List String) :
      ShellM (Except SystemError ProcessEnd) := do
    let name := arguments.headD ""
    let s ← getSession
    let directories := if (s.value? "PATH").isSome then Program.searchPath s
      else ["/bin", "/usr/bin"]
    match ← loadFirst arguments .noEntry (pathsOf directories name) with
    | .error error => return .error error
    | .ok loaded =>
      passTime programTime
      return .ok (← inChild (runLoaded depth loaded))

/-- How many programs can start each other without a shell between them. -/
def maxStarts : Nat := 100

/-- Runs a command that is a program. -/
def runProgram (standard : Bool) (words : List String) : ShellM Nat := do
  let name := words.headD ""
  let s ← getSession
  let directories := if standard then Program.standardDirectories else Program.searchPath s
  match ← Program.candidates directories (!standard) name with
  | .error error =>
    complain (name ++ ": " ++ Program.complaint error)
    return 127
  | .ok paths =>
    match ← loadFirst words .noEntry paths with
    | .error error =>
      complain (name ++ ": " ++ Program.complaint error)
      return Program.failureStatus error
    | .ok loaded =>
      passTime programTime
      let started ← inChild do
        changeSession Session.handedOver
        runLoaded run maxStarts loaded
      started.tell

/-- Runs a program in place of the shell. -/
def replaceShell (words : List String) : ShellM Nat := do
  let name := words.headD ""
  let refuseProgram (error : SystemError) : ShellM Nat := do
    complain (name ++ ": " ++ Program.complaint error)
    throw (.exited (Program.failureStatus error))
  match ← loadFirst words .noEntry (pathsOf (Program.searchPath (← getSession)) name) with
  | .error error => refuseProgram error
  | .ok loaded =>
    changeSession fun s =>
      { s.handedOver with traps := s.traps.filter (·.2.isEmpty) }
    throw (.exited (← runLoaded run maxStarts loaded))

end Running

end UnityBuild.Shell
