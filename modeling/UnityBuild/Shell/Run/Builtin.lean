import UnityBuild.Shell.Builtin.Lookup
import UnityBuild.Shell.Run.Start

/-!
# Running built-in commands and functions

Some built-in commands run other commands, or lead to another place of a script. A function is
called with arguments of its own.
-/

namespace UnityBuild.Shell

/-- How deep functions can call each other. -/
def maxCalls : Nat := 1000

section Running

variable (run : Runner)

/-- The levels of loops that an argument asks for. -/
def loopLevels (arguments : List String) : ShellM Nat := do
  match arguments with
  | [] => return 1
  | text :: _ =>
    let levels ← readCount text
    if levels = 0 then fail ("Illegal number: " ++ text)
    return levels

/-- Leaves loops, or goes on with their next round. -/
def leaveLoops (stop : Nat → Stop) (arguments : List String) : ShellM Nat := do
  let levels ← loopLevels arguments
  let depth := (← getSession).loopDepth
  if depth = 0 then return 0
  setStatus 0
  throw (stop (min levels depth))

/-- The status that an argument asks for, or another one. -/
def statusArgument (arguments : List String) (otherwise : Nat) : ShellM Nat :=
  match arguments with
  | [] => return otherwise
  | text :: _ => readCount text

/-- Finds a script by its name or its path. -/
def findScript (name : String) : ShellM String := do
  if name.toList.contains '/' then return name
  let s ← get
  let candidates := (Program.searchPath s.session).map fun directory =>
    Program.inDirectory directory name
  match candidates.find? fun path => (s.files.readBytes ⟨path⟩).toBool with
  | some path => return path
  | none => fail (name ++ ": not found")

/-- Runs an action until it returns. -/
def untilReturn (action : ShellM Nat) : ShellM Nat :=
  ExceptT.mk do
    match ← action.run with
    | .error (.returned status) => return .ok status
    | result => return result

/-- Runs the commands of a file in the session. -/
def sourceCommand (arguments : List String) : ShellM Nat := do
  match (← readOptions "" arguments).2 with
  | [] => return 0
  | name :: _ =>
    let path ← findScript name
    let script ← readScript path
    changeSession fun s => { s with command := some path }
    untilReturn (runScript run script)

/-- Runs a built-in command. -/
def runBuiltin (tested : Bool) (name : String) (arguments : List String) : ShellM Nat := do
  let s ← getSession
  match name with
  | "." => sourceCommand run arguments
  | "eval" =>
    if arguments.isEmpty then return 0
    runText run tested (String.intercalate " " arguments)
  | "exec" => if arguments.isEmpty then return 0 else replaceShell run arguments
  | "command" => describeCommand arguments
  | "type" => typeCommand arguments
  | "hash" => hashCommand arguments
  | "wait" => waitCommand run arguments
  | "exit" => throw (.exited (← statusArgument arguments (s.savedStatus.getD s.status)))
  | "return" => throw (.returned (← statusArgument arguments s.status))
  | "break" => leaveLoops .leftLoop arguments
  | "continue" => leaveLoops .nextRound arguments
  | name =>
    match plainBuiltin? name with
    | some builtin => builtin arguments
    | none => return 0

/-- Runs a built-in command under its name. -/
def asCommand (name : String) (action : ShellM Nat) : ShellM Nat := do
  let before := (← getSession).command
  changeSession fun s => { s with command := some name }
  finallyChange action fun s => { s with session := { s.session with command := before } }

/-- Calls a function. -/
def callFunction (tested : Bool) (body : Command) (arguments : List String) : ShellM Nat := do
  let before ← getSession
  if maxCalls ≤ before.callDepth then
    fail ("Maximum function recursion depth (" ++ toString maxCalls ++ ") reached")
  changeSession fun s =>
    { s with
      arguments := arguments
      nextOption := 1
      optionOffset := 0
      loopDepth := 0
      callDepth := s.callDepth + 1
      frames := {} :: s.frames }
  finallyChange (untilReturn (run tested body)) fun s =>
    let session := s.session.restore (s.session.frames.headD {})
    { s with
      session :=
        { session with
          arguments := before.arguments
          nextOption := before.nextOption
          optionOffset := before.optionOffset
          loopDepth := before.loopDepth
          callDepth := before.callDepth
          frames := before.frames } }

end Running

end UnityBuild.Shell
