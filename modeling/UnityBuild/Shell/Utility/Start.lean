import UnityBuild.Shell.Duration
import UnityBuild.Shell.Utility.Basic

/-!
# Utilities around other programs

One utility starts another program with other variables; the others tell the variables and let time
pass.
-/

namespace UnityBuild.Shell.Utility

/-- The status of a program that could not be started. -/
def failedStart (error : SystemError) : Nat :=
  if error = .noEntry then 127 else 126

/-- Goes on as another program, or complains. -/
def become (name what : String) (start : Starter) (command : List String) : ShellM Nat := do
  match ← start command with
  | .ok (.exited status) => return status
  | .ok (.killed signal) => throw (.killed signal)
  | .error error =>
    grumble name (what ++ quotedName (command.headD "") ++ ": " ++ error.text)
    return failedStart error

/-! ### Variables -/

/-- The lines that tell the environment. -/
def environmentLines (last : String) (s : Session) : String :=
  String.join (s.environment.map fun (name, value) => name ++ "=" ++ value ++ last)

/-- Sets the variables in front of a command, and gives the command. -/
def takeVariables : List String → ShellM (List String)
  | [] => return []
  | first :: others => do
    match Text.cutAt '=' first.toList with
    | (name, some value) =>
      changeSession fun s =>
        s.putVariable (String.ofList name) ⟨some (String.ofList value), true, false⟩
      takeVariables others
    | (_, none) => return first :: others

/-- Starts a program with other variables, or tells them. -/
def env : Utility := fun start arguments => do
  let words := [("ignore-environment", 'i'), ("unset", 'u'), ("null", '0'), ("chdir", 'C'),
    ("split-string", 'S'), ("debug", 'v')]
  let (options, rest) ← match readAmong "iu:0C:S:v".toList words true (arguments.length + 1)
      arguments with
    | .ok result => pure result
    | .error problem => refuseOptions "env" 125 problem
  let bare := rest.head? = some "-"
  let rest := if bare then rest.drop 1 else rest
  if given options 'i' || bare then changeSession fun s => { s with bindings := [] }
  options.forM fun (letter, name) =>
    if letter == 'u' then changeSession (·.dropVariable name) else pure ()
  let split := (valueOf? options 'S').elim [] fun text =>
    ((Text.splitAt (· == ' ') text.toList).filter (!·.isEmpty)).map String.ofList
  let command ← takeVariables (split ++ rest)
  match valueOf? options 'C' with
  | some path =>
    let s ← get
    match s.files.locate ⟨path⟩, s.files.isDirectory ⟨path⟩ with
    | .ok place, true =>
      modify fun s => { s with files := { s.files with workingDirectory := place } }
    | .error error, _ =>
      giveUp "env" ("cannot change directory to " ++ quotedName path ++ ": " ++ error.text) 125
    | _, _ =>
      giveUp "env" ("cannot change directory to " ++ quotedName path ++ ": Not a directory") 125
  | none => pure ()
  if command.isEmpty then
    write (environmentLines (if given options '0' then "\x00" else "\n") (← getSession))
    return 0
  else if given options '0' then
    giveUpWithHelp "env" "cannot specify --null (-0) with command" 125
  else become "env" "" start command

/-- Tells the values of variables. -/
def printenv : Utility := fun _ arguments => do
  let (options, names) ← readLeading "printenv" 2 "0" [("null", '0')] arguments
  let last := if given options '0' then "\x00" else "\n"
  let environment := (← getSession).environment
  if names.isEmpty then
    write (environmentLines last (← getSession))
    return 0
  let values := names.map fun name => environment.lookup name
  write (String.join (values.map fun value => (value.map (· ++ last)).getD ""))
  return statusOf (values.all Option.isSome)

/-! ### Time -/

/-- Lets time pass. -/
def sleep : Utility := fun _ arguments => do
  let (_, times) ← readLeading "sleep" 1 "" [] arguments
  if times.isEmpty then missOperand "sleep" ""
  let wrong := times.filter fun text => (durationOf? text).isNone
  match wrong with
  | [] =>
    passTime ((times.filterMap durationOf?).foldl (· + ·) 0)
    return 0
  | wrong =>
    wrong.forM fun text => grumble "sleep" ("invalid time interval " ++ quotedName text)
    pointToHelp "sleep"
    return 1

end UnityBuild.Shell.Utility
