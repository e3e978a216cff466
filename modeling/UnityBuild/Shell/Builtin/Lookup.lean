import UnityBuild.Shell.Builtin.Output
import UnityBuild.Shell.Builtin.Place
import UnityBuild.Shell.Builtin.Settings
import UnityBuild.Shell.Builtin.Signals
import UnityBuild.Shell.Parser
import UnityBuild.Shell.Program

/-!
# What a word means as a command

A word is a keyword, a function, a built-in command, or the name of a program. `type`, `command`
and `hash` tell which.
-/

namespace UnityBuild.Shell

/-- The built-in commands that do not run other commands. -/
def plainBuiltin? : String → Option (List String → ShellM Nat)
  | ":" => some fun _ => return 0
  | "true" => some fun _ => return 0
  | "false" => some fun _ => return 1
  | "echo" => some echoCommand
  | "printf" => some printfCommand
  | "test" => some testCommand
  | "[" => some bracketCommand
  | "cd" => some cdCommand
  | "chdir" => some cdCommand
  | "pwd" => some pwdCommand
  | "export" => some exportCommand
  | "readonly" => some readonlyCommand
  | "local" => some localCommand
  | "unset" => some unsetCommand
  | "read" => some readCommandLine
  | "getopts" => some getoptsCommand
  | "set" => some setCommand
  | "shift" => some shiftCommand
  | "alias" => some aliasCommand
  | "unalias" => some unaliasCommand
  | "trap" => some trapCommand
  | "kill" => some killCommand
  | "jobs" => some fun _ => return 0
  | "fg" => some fun _ => fail "No current job"
  | "bg" => some fun _ => fail "No current job"
  | _ => none

/-- The built-in commands that run other commands, tell about them, or lead elsewhere. -/
def controlBuiltins : List String :=
  [".", "eval", "exec", "command", "type", "hash", "exit", "return", "break", "continue",
    "wait"]

/-- Whether a word is a built-in command. -/
def isBuiltin (name : String) : Bool :=
  controlBuiltins.contains name || (plainBuiltin? name).isSome

/-- What a word means as a command. -/
inductive Meaning where
  | keyword
  | otherWords (text : String)
  | function
  | builtin (special : Bool)
  | program (path : String) (known : Bool)
  | unknown
deriving DecidableEq, Repr

/-- The meaning of a word as a command. -/
def meaningOf (directories : List String) (remembers : Bool) (name : String) : ShellM Meaning := do
  let s ← get
  if keywords.contains name then return .keyword
  match s.session.aliases.lookup name with
  | some text => return .otherWords text
  | none => pure ()
  if (s.session.functions.lookup name).isSome then return .function
  if isBuiltin name then return .builtin (specialBuiltins.contains name)
  if name.toList.contains '/' then
    return if (s.files.entryAt ⟨name⟩).toBool then .program name false else .unknown
  match ← Program.candidates directories remembers name with
  | .ok (path :: _) => return .program path (remembers && (s.session.found.lookup name).isSome)
  | _ => return .unknown

/-- A sentence about the meaning of a word. -/
def Meaning.sentence (name : String) : Meaning → String
  | keyword => name ++ " is a shell keyword"
  | otherWords text => name ++ " is an alias for " ++ text
  | function => name ++ " is a shell function"
  | builtin true => name ++ " is a special shell builtin"
  | builtin false => name ++ " is a shell builtin"
  | program path false => name ++ " is " ++ path
  | program path true => name ++ " is a tracked alias for " ++ path
  | unknown => name ++ ": not found"

/-- What can be written for a word to have its meaning. -/
def Meaning.spelling (name : String) : Meaning → String
  | otherWords text => "alias " ++ name ++ "=" ++ quoteText text
  | program path _ => path
  | _ => name

/-- Tells the meaning of words. -/
def typeCommand (arguments : List String) : ShellM Nat := do
  let (_, names) ← readOptions "" arguments
  let directories := Program.searchPath (← getSession)
  let meanings ← names.mapM fun name => do return (name, ← meaningOf directories true name)
  let _ ← output (String.join (meanings.map fun (name, meaning) => meaning.sentence name ++ "\n"))
  return if meanings.any (·.2 == .unknown) then 127 else 0

/-- Tells the meaning of the first word. -/
def describeCommand (arguments : List String) : ShellM Nat := do
  let (options, names) ← readOptions "pvV" arguments
  let standard := options.any (·.1 == 'p')
  let s ← getSession
  let directories := if standard then Program.standardDirectories else Program.searchPath s
  match names with
  | [] => return 0
  | name :: _ =>
    let meaning ← meaningOf directories (!standard) name
    let verbose := (options.filter (·.1 != 'p')).getLast?.map (·.1) == some 'V'
    let text := if verbose then meaning.sentence name ++ "\n"
      else if meaning = .unknown then "" else meaning.spelling name ++ "\n"
    let _ ← output text
    return if meaning = .unknown then 127 else 0

/-- The row of the table of known programs that a name stands in. -/
def tableRow (name : String) : Nat :=
  let letters := name.toList.map Char.toNat
  letters.foldl (· + ·) (16 * letters.headD 0) % 32768 % 31

/-- Tells which programs are known, forgets them, or looks for some. -/
def hashCommand (arguments : List String) : ShellM Nat := do
  let (options, names) ← readOptions "r" arguments
  let s ← getSession
  let directories := Program.searchPath s
  if !options.isEmpty then
    changeSession fun s => { s with found := [] }
    return 0
  if names.isEmpty then
    let entries := s.found.mergeSort fun a b => tableRow a.1 ≤ tableRow b.1
    return ← output (String.join (entries.map fun (name, index) =>
      Program.inDirectory (directories.getD index "") name ++ "\n"))
  names.foldlM (fun status name => do
    changeSession fun s => { s with found := s.found.filter (·.1 != name) }
    if (← meaningOf directories true name) = .unknown then
      complain (name ++ ": not found")
      return 1
    else return status) 0

end UnityBuild.Shell
